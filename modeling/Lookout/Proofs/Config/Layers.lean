import Lookout.Proofs.Results
import Lookout.Proofs.Text.Reading
import Lookout.Proofs.Url.Scheme
/-!
# A configuration and its layers

A configuration is made of three layers, the environment over the file over the defaults, and then
checked.  What each layer says is put down here on its own (`Layers.Found`), what follows from the
layers field by field (`Layers.Gives`), and what a configuration has to satisfy (`Config.Valid`).

* **Loading is layering and checking** (`load_by_layers`): what is loaded is what the layers give, it
  is valid, and there is no other way to fail than a layer that cannot be found or a configuration
  that is not valid.
* **A variable affects its own field alone**, which is the last part of that theorem.
-/

namespace Lookout

/-! ### First occurrences -/

/-- The first occurrences among some values, in their order. -/
inductive FirstOccurrences {α : Type} : List α → List α → Prop where
  /-- Of no values there are none. -/
  | nil : FirstOccurrences [] []
  /-- A value that was not there before is kept. -/
  | fresh {all kept : List α} {a : α} (before : FirstOccurrences all kept) (hnew : a ∉ all) :
      FirstOccurrences (all ++ [a]) (kept ++ [a])
  /-- A value that was there before is dropped. -/
  | again {all kept : List α} {a : α} (before : FirstOccurrences all kept) (hold : a ∈ all) :
      FirstOccurrences (all ++ [a]) kept

namespace FirstOccurrences

variable {α : Type} {all kept : List α}

/-- The values that are kept are those that there are. -/
theorem mem_iff (h : FirstOccurrences all kept) {a : α} : a ∈ kept ↔ a ∈ all := by
  induction h with
  | nil => rfl
  | fresh _ _ ih => simp [ih]
  | again _ hold ih =>
    rw [ih, List.mem_append, List.mem_singleton]
    constructor
    · exact Or.inl
    · rintro (hin | rfl)
      · exact hin
      · exact hold

/-- No value is kept twice. -/
theorem nodup (h : FirstOccurrences all kept) : kept.Nodup := by
  induction h with
  | nil => exact List.nodup_nil
  | fresh before hnew ih =>
    rw [List.nodup_append]
    refine ⟨ih, List.pairwise_singleton _ _, ?_⟩
    rintro a hkept b hb rfl
    rw [List.mem_singleton] at hb
    subst hb
    exact hnew (before.mem_iff.mp hkept)
  | again _ _ ih => exact ih

variable [BEq α] [LawfulBEq α]

/-- A value at the end is dropped exactly if it was there before. -/
theorem eraseDups_concat (all : List α) (a : α) :
    (a ∈ all → (all ++ [a]).eraseDups = all.eraseDups) ∧
      (a ∉ all → (all ++ [a]).eraseDups = all.eraseDups ++ [a]) := by
  rw [List.eraseDups_append]
  constructor
  · intro h
    simp [List.removeAll, h]
  · intro h
    simp [List.removeAll, h, List.eraseDups_cons]

/-- Dropping what was there before leaves the first occurrences. -/
theorem eraseDups (all : List α) : FirstOccurrences all all.eraseDups := by
  -- the values are taken from the front one by one
  have hmore : ∀ (rest taken : List α), FirstOccurrences taken taken.eraseDups →
      FirstOccurrences (taken ++ rest) (taken ++ rest).eraseDups := by
    intro rest
    induction rest with
    | nil =>
      intro taken htaken
      rwa [List.append_nil]
    | cons a rest ih =>
      intro taken htaken
      rw [List.append_cons]
      refine ih (taken ++ [a]) ?_
      by_cases hold : a ∈ taken
      · rw [(eraseDups_concat taken a).1 hold]
        exact again htaken hold
      · rw [(eraseDups_concat taken a).2 hold]
        exact fresh htaken hold
  exact hmore all [] nil

/-- The first occurrences are what is left when what was there before is dropped. -/
theorem eq_eraseDups (h : FirstOccurrences all kept) : kept = all.eraseDups := by
  induction h with
  | nil => rfl
  | fresh _ hnew ih => rw [(eraseDups_concat _ _).2 hnew, ih]
  | again _ hold ih => rw [(eraseDups_concat _ _).1 hold, ih]

end FirstOccurrences

namespace Config

open Results

/-- A configuration in which each channel is kept only where it is first listed. -/
def distinct (c : Config) : Config :=
  { c with dashboard := { c.dashboard with channels := c.dashboard.channels.eraseDups } }

/-! ### What the layers say -/

/-- What the highest of some layers says that says anything; otherwise the default. -/
def ofHighest {α : Type} (layers : List (Option α)) (default : α) : α :=
  (layers.findSome? id).getD default

/-- A layer that says something is higher than those after it. -/
@[simp] theorem ofHighest_cons {α : Type} (layer : Option α) (layers : List (Option α))
    (default : α) : ofHighest (layer :: layers) default = layer.getD (ofHighest layers default) := by
  cases layer <;> rfl

/-- Where no layer says anything the default is in force. -/
@[simp] theorem ofHighest_nil {α : Type} (default : α) : ofHighest [] default = default := rfl

/-- The text of a variable counts if it is more than blanks. -/
def Environment.TextIs (env : Environment) (name : String) : Option String → Prop
  | some text => env.value name = some text ∧ ∃ c ∈ text.toList, Text.isBlank c = false
  | none => ∀ text, env.value name = some text → ∀ c ∈ text.toList, Text.isBlank c = true

/-- The number in a variable counts whenever the variable is set; it then has to be one. -/
def Environment.NumberIs (env : Environment) (name : String) (bound : Nat) : Option Nat → Prop
  | some n => ∃ text, env.value name = some text ∧ Text.Numeral bound (Text.trim text) n
  | none => env.value name = none

/-- The entries between commas that are more than blanks, without the blanks around them. -/
def entriesOf (text : String) : List String :=
  ((text.toList.splitOn ',').map fun part => Text.trim (String.ofList part)).filter (!·.isEmpty)

/-- The channels in a variable count if there is one. -/
def Environment.ChannelsAre (env : Environment) (name : String) : Option (List ChannelId) → Prop
  | some channels => channels ≠ [] ∧
      ∃ text, env.value name = some text ∧ channels = (entriesOf text).map ChannelId.mk
  | none => ∀ text, env.value name = some text → entriesOf text = []

/-- The file is the one that the environment names; without a name it says nothing. -/
def FileIs (env : Environment) (files : String → Except FileFault ByteArray) (file : ConfigFile) :
    Prop :=
  (env.value "MONITOR_CONFIG" = none ∧ file = {}) ∨
    ∃ path octets text, env.value "MONITOR_CONFIG" = some path ∧ files path = .ok octets ∧
      String.fromUTF8? octets = some text ∧ ConfigFile.read text = .ok file

/-- The format is the one that the file names; a name has to be known. -/
def FormatIs (name : Option String) : Option SnapshotFormat → Prop
  | some format => ∃ text, name = some text ∧ SnapshotFormat.parse text = .ok format
  | none => name = none

/-- What the file and the environment say. -/
structure Layers where
  /-- The file. -/
  file : ConfigFile
  /-- The snapshot format that the file names. -/
  format : Option SnapshotFormat
  /-- The address of the detection service in the environment. -/
  detectionUrl : Option String
  /-- The base address of the channels in the environment. -/
  baseUrl : Option String
  /-- The poll rate in the environment. -/
  pollRate : Option Nat
  /-- The delay after a failed poll in the environment, in milliseconds. -/
  backoff : Option Nat
  /-- The channels in the environment. -/
  channels : Option (List ChannelId)
  /-- The font's file in the environment. -/
  fontPath : Option String

namespace Layers

/-- The layers are those of an environment and the files that there are. -/
structure Found (l : Layers) (env : Environment) (files : String → Except FileFault ByteArray) :
    Prop where
  /-- The file is the one that the environment names. -/
  file : FileIs env files l.file
  /-- The format is the one that the file names. -/
  format : FormatIs l.file.camera.format l.format
  /-- The address of the detection service is a text. -/
  detectionUrl : env.TextIs "MONITOR_DETECT_URL" l.detectionUrl
  /-- The base address of the channels is a text. -/
  baseUrl : env.TextIs "MONITOR_CHANNEL_BASE_URL" l.baseUrl
  /-- The poll rate is a number of 32 bits. -/
  pollRate : env.NumberIs "MONITOR_POLL_FPS" 0x100000000 l.pollRate
  /-- The delay is a number of 64 bits. -/
  backoff : env.NumberIs "MONITOR_RETRY_BACKOFF_MS" 0x10000000000000000 l.backoff
  /-- The channels are a list. -/
  channels : env.ChannelsAre "MONITOR_CHANNELS" l.channels
  /-- The font's file is a text. -/
  fontPath : env.TextIs "MONITOR_FONT_PATH" l.fontPath

/-- Every field of a configuration is what the highest layer says that says anything; of channels
the first occurrences are kept. -/
structure Gives (l : Layers) (c : Config) : Prop where
  /-- The address of the detection service. -/
  detectionUrl : c.detection.url =
    ofHighest [l.detectionUrl, l.file.detection.url] "http://127.0.0.1:8080/"
  /-- How long to wait for the detection service. -/
  detectionTimeout : c.detection.timeout = .ofMillis (ofHighest [l.file.detection.timeout] 5000)
  /-- The devices to choose from. -/
  devices : c.camera.devices = ofHighest [l.file.camera.devices] [syntheticDevice]
  /-- What a capture has to satisfy. -/
  constraints : c.camera.constraints = ofHighest [l.file.camera.constraints] {}
  /-- The frames in a second. -/
  frameRate : c.camera.frameRate = ofHighest [l.file.camera.frameRate] 30
  /-- The format of snapshots. -/
  format : c.camera.format = ofHighest [l.format] .jpeg
  /-- The base address of the channels. -/
  baseUrl : c.dashboard.baseUrl =
    ofHighest [l.baseUrl, l.file.dashboard.baseUrl] "http://127.0.0.1:8080"
  /-- The polls in a second. -/
  pollRate : c.dashboard.policy.rate = ofHighest [l.pollRate, l.file.dashboard.pollRate] 5
  /-- The delay after a failed poll. -/
  backoff : c.dashboard.policy.backoff =
    .ofMillis (ofHighest [l.backoff, l.file.dashboard.backoff] 10000)
  /-- How long to wait for a picture of a channel. -/
  pictureTimeout : c.dashboard.timeout = .ofMillis (ofHighest [l.file.dashboard.timeout] 5000)
  /-- The channels that are watched. -/
  channels : FirstOccurrences (ofHighest [l.channels, l.file.dashboard.channels] [])
    c.dashboard.channels
  /-- The font's file. -/
  fontPath : c.fontPath = [l.fontPath, l.file.fontPath].findSome? id

/-- What the layers give, field by field, with channels as often as they are listed. -/
def merged (l : Layers) : Config where
  detection := {
    url := ofHighest [l.detectionUrl, l.file.detection.url] "http://127.0.0.1:8080/"
    timeout := .ofMillis (ofHighest [l.file.detection.timeout] 5000) }
  camera := {
    devices := ofHighest [l.file.camera.devices] [syntheticDevice]
    constraints := ofHighest [l.file.camera.constraints] {}
    frameRate := ofHighest [l.file.camera.frameRate] 30
    format := ofHighest [l.format] .jpeg }
  dashboard := {
    baseUrl := ofHighest [l.baseUrl, l.file.dashboard.baseUrl] "http://127.0.0.1:8080"
    policy := {
      rate := ofHighest [l.pollRate, l.file.dashboard.pollRate] 5
      backoff := .ofMillis (ofHighest [l.backoff, l.file.dashboard.backoff] 10000) }
    timeout := .ofMillis (ofHighest [l.file.dashboard.timeout] 5000)
    channels := ofHighest [l.channels, l.file.dashboard.channels] [] }
  fontPath := [l.fontPath, l.file.fontPath].findSome? id

/-- The configuration that the layers give. -/
def settled (l : Layers) : Config := l.merged.distinct

/-- The layers give one configuration. -/
theorem gives_iff {l : Layers} {c : Config} : l.Gives c ↔ c = l.settled := by
  constructor
  · intro h
    obtain ⟨⟨_, _⟩, ⟨_, _, _, _⟩, ⟨_, ⟨_, _⟩, _, channels⟩, _⟩ := c
    obtain ⟨rfl, rfl, rfl, rfl, rfl, rfl, rfl, rfl, rfl, rfl, hkept, rfl⟩ := h
    obtain rfl : channels = _ := hkept.eq_eraseDups
    rfl
  · rintro rfl
    exact ⟨rfl, rfl, rfl, rfl, rfl, rfl, rfl, rfl, rfl, rfl, FirstOccurrences.eraseDups _, rfl⟩

end Layers

/-! ### Reading the layers -/

variable {env : Environment} {name : String}

/-- A variable is read as the text that counts. -/
theorem filled_eq_iff {found : Option String} : env.filled name = found ↔ env.TextIs name found := by
  unfold Environment.filled
  cases found with
  | none =>
    rw [Option.filter_eq_none_iff]
    simp [Environment.TextIs, Text.trim_eq_empty_iff]
  | some text =>
    rw [Option.filter_eq_some_iff]
    simp [Environment.TextIs, ← Text.trim_ne_empty_iff]

/-- A variable is read as the number that counts. -/
theorem whole_eq_ok_iff {bound : Nat} (onFault : ConfigError) {found : Option Nat} :
    env.whole name bound onFault = .ok found ↔ env.NumberIs name bound found := by
  unfold Environment.whole
  rcases hvalue : env.value name with _ | text
  · cases found with
    | none => simp [Environment.NumberIs, hvalue]
    | some n => simp [Environment.NumberIs, hvalue]
  · have hread : (match Text.whole? bound (Text.trim text) with
        | some n => Except.ok (some n)
        | none => .error onFault) = .ok found ↔
        ∃ n, Text.Numeral bound (Text.trim text) n ∧ found = some n := by
      simp only [← Text.whole?_eq_some_iff]
      rcases Text.whole? bound (Text.trim text) with _ | m
      · simp
      · simp [eq_comm]
    refine Iff.trans hread ?_
    cases found with
    | none => simp [Environment.NumberIs, hvalue]
    | some n => simp [Environment.NumberIs, hvalue]

/-- Commas are where a list is split. -/
theorem splitCommas_eq (cs : List Char) : splitCommas cs = cs.splitOn ',' := by
  induction cs with
  | nil => rfl
  | cons c cs ih =>
    rw [splitCommas, List.splitOn_cons_eq_if_modifyHead, ih]
    by_cases hcomma : c = ','
    · simp [hcomma]
    · simp only [hcomma, beq_iff_eq, if_false]
      rcases hparts : cs.splitOn ',' with _ | ⟨part, parts⟩
      · exact absurd hparts (List.splitOnP_ne_nil _ _)
      · rfl

/-- A variable is read as the channels that count. -/
theorem channels_eq_iff {found : Option (List ChannelId)} :
    env.channels = found ↔ env.ChannelsAre "MONITOR_CHANNELS" found := by
  have hentries : ∀ text, listEntries text = entriesOf text := by
    intro text
    unfold listEntries entriesOf
    rw [splitCommas_eq]
  unfold Environment.channels
  rcases hvalue : env.value "MONITOR_CHANNELS" with _ | text
  · cases found with
    | none => simp [Environment.ChannelsAre, hvalue]
    | some found => simp [Environment.ChannelsAre, hvalue]
  · rw [Option.map_some, hentries]
    rcases hlist : entriesOf text with _ | ⟨entry, entries⟩
    · cases found with
      | none => simp [Environment.ChannelsAre, hvalue, hlist]
      | some found => simp [Environment.ChannelsAre, hvalue, hlist]
    · cases found with
      | none => simp [Environment.ChannelsAre, hvalue, hlist]
      | some found =>
        simp only [Environment.ChannelsAre, hvalue, Option.some.injEq, exists_eq_left', hlist]
        constructor
        · rintro rfl
          exact ⟨List.cons_ne_nil _ _, rfl⟩
        · rintro ⟨_, rfl⟩
          rfl

/-- A file is read if its octets are there, are a text, and the text is a configuration file. -/
theorem readFile_eq_ok_iff {path : String} {contents : Except FileFault ByteArray}
    {file : ConfigFile} :
    readFile path contents = .ok file ↔ ∃ octets text, contents = .ok octets ∧
      String.fromUTF8? octets = some text ∧ ConfigFile.read text = .ok file := by
  unfold readFile
  simp only [bind, bind_eq_ok_iff, mapError_eq_ok_iff]
  refine exists_congr fun octets => ?_
  rcases String.fromUTF8? octets with _ | text
  · simp
  · simp [mapError_eq_ok_iff]

/-- The octets of a text are read as that text. -/
theorem readFile_toUTF8 (path text : String) : readFile path (.ok text.toUTF8) =
    (ConfigFile.read text).mapError (ConfigError.malformed path) := by
  have htext : String.fromUTF8? text.toUTF8 = some text := dif_pos text.isValidUTF8
  have hoctets : Except.mapError (ConfigError.unreadable path) (.ok text.toUTF8) =
    .ok text.toUTF8 := rfl
  unfold readFile
  rw [hoctets]
  simp only [bind, Except.bind, htext]

/-- The format that a file names. -/
def namedFormat (name : Option String) : Except ConfigError (Option SnapshotFormat) :=
  match name with
  | none => .ok none
  | some name => ((SnapshotFormat.parse name).mapError .format).map some

/-- The format is read as the one that the file names. -/
theorem namedFormat_eq_ok_iff {text : Option String} {format : Option SnapshotFormat} :
    namedFormat text = .ok format ↔ FormatIs text format := by
  rcases text with _ | text
  · cases format with
    | none => simp [namedFormat, FormatIs]
    | some format => simp [namedFormat, FormatIs]
  · unfold namedFormat
    simp only [map_eq_ok_iff, mapError_eq_ok_iff]
    cases format with
    | none => simp [FormatIs]
    | some format => simp [FormatIs]

/-- The file that the environment names. -/
def namedFile (env : Environment) (files : String → Except FileFault ByteArray) :
    Except ConfigError ConfigFile :=
  match env.value "MONITOR_CONFIG" with
  | some path => readFile path (files path)
  | none => .ok {}

/-- The file is read as the one that the environment names. -/
theorem namedFile_eq_ok_iff {files : String → Except FileFault ByteArray} {file : ConfigFile} :
    namedFile env files = .ok file ↔ FileIs env files file := by
  unfold namedFile FileIs
  rcases env.value "MONITOR_CONFIG" with _ | path
  · simp [eq_comm]
  · simp [readFile_eq_ok_iff]

/-- The layers, read one after the other. -/
def readLayers (env : Environment) (files : String → Except FileFault ByteArray) :
    Except ConfigError Layers := do
  let file ← namedFile env files
  let format ← namedFormat file.camera.format
  let pollRate ← env.whole "MONITOR_POLL_FPS" 0x100000000 .pollRateNotWhole
  let backoff ← env.whole "MONITOR_RETRY_BACKOFF_MS" 0x10000000000000000 .backoffNotWhole
  return {
    file, format, pollRate, backoff
    detectionUrl := env.filled "MONITOR_DETECT_URL"
    baseUrl := env.filled "MONITOR_CHANNEL_BASE_URL"
    channels := env.channels
    fontPath := env.filled "MONITOR_FONT_PATH" }

/-- The layers that are read are those that are found. -/
theorem readLayers_eq_ok_iff {files : String → Except FileFault ByteArray} {l : Layers} :
    readLayers env files = .ok l ↔ l.Found env files := by
  unfold readLayers
  simp only [bind, bind_eq_ok_iff, namedFile_eq_ok_iff, namedFormat_eq_ok_iff, whole_eq_ok_iff]
  constructor
  · rintro ⟨file, hfile, format, hformat, rate, hrate, backoff, hbackoff, hl⟩
    cases hl
    exact ⟨hfile, hformat, filled_eq_iff.mp rfl, filled_eq_iff.mp rfl, hrate, hbackoff,
      channels_eq_iff.mp rfl, filled_eq_iff.mp rfl⟩
  · intro h
    refine ⟨l.file, h.file, l.format, h.format, l.pollRate, h.pollRate, l.backoff, h.backoff, ?_⟩
    rw [filled_eq_iff.mpr h.detectionUrl, filled_eq_iff.mpr h.baseUrl,
      filled_eq_iff.mpr h.fontPath, channels_eq_iff.mpr h.channels]
    rfl

/-- A file over the defaults is a layer of which the environment says nothing. -/
theorem ofFile_eq (file : ConfigFile) :
    ofFile file = (namedFormat file.camera.format).map fun format =>
      Layers.merged ⟨file, format, none, none, none, none, none, none⟩ := by
  have hformat : formatOf file.camera.format =
      (namedFormat file.camera.format).map fun format => ofHighest [format] .jpeg := by
    unfold formatOf namedFormat
    rcases file.camera.format with _ | name
    · rfl
    · rcases hparse : SnapshotFormat.parse name with e | format
      · simp only [hparse]
        rfl
      · simp only [hparse]
        rfl
  unfold ofFile
  rw [hformat]
  rcases namedFormat file.camera.format with e | format
  · rfl
  · simp [Layers.merged, Except.map, bind, Except.bind, pure, Except.pure, Option.getD_map]

/-- The environment fills in what it says. -/
theorem withEnvironment_merged (env : Environment) (file : ConfigFile)
    (format : Option SnapshotFormat) :
    (Layers.merged ⟨file, format, none, none, none, none, none, none⟩).withEnvironment env =
      (env.whole "MONITOR_POLL_FPS" 0x100000000 .pollRateNotWhole).bind fun rate =>
        (env.whole "MONITOR_RETRY_BACKOFF_MS" 0x10000000000000000 .backoffNotWhole).map
          fun backoff => Layers.merged {
            file, format, pollRate := rate, backoff
            detectionUrl := env.filled "MONITOR_DETECT_URL"
            baseUrl := env.filled "MONITOR_CHANNEL_BASE_URL"
            channels := env.channels
            fontPath := env.filled "MONITOR_FONT_PATH" } := by
  have hfont : ∀ high low : Option String, high.or low = [high, low].findSome? id := by
    rintro (_ | high) (_ | low) <;> rfl
  unfold withEnvironment
  rcases env.whole "MONITOR_POLL_FPS" 0x100000000 .pollRateNotWhole with e | rate
  · rfl
  rcases env.whole "MONITOR_RETRY_BACKOFF_MS" 0x10000000000000000 .backoffNotWhole with e | backoff
  · rfl
  · simp [Layers.merged, Except.map, bind, Except.bind, pure, Except.pure, Option.getD_map,
      hfont (env.filled "MONITOR_FONT_PATH")]

/-- Loading a file that holds a text. -/
theorem load_toUTF8 {env : Environment} {files : String → Except FileFault ByteArray}
    {path text : String} (hpath : env.value "MONITOR_CONFIG" = some path)
    (hfile : files path = .ok text.toUTF8) : load env files =
      ((ConfigFile.read text).mapError (ConfigError.malformed path)).bind fun file =>
        (ofFile file).bind fun c => (c.withEnvironment env).bind check := by
  unfold load
  rw [hpath]
  dsimp only
  rw [hfile, readFile_toUTF8]
  rfl

/-- Loading is reading the layers, laying them over each other, and checking the result. -/
theorem load_eq (env : Environment) (files : String → Except FileFault ByteArray) :
    load env files = (readLayers env files).bind fun l => check l.merged := by
  have hsteps : load env files =
      (namedFile env files).bind fun file => (ofFile file).bind fun c =>
        (c.withEnvironment env).bind check := by
    unfold load namedFile
    rcases env.value "MONITOR_CONFIG" with _ | path <;> rfl
  rw [hsteps]
  unfold readLayers
  rcases namedFile env files with e | file
  · rfl
  simp only [Except.bind, bind, ofFile_eq]
  rcases namedFormat file.camera.format with e | format
  · rfl
  simp only [Except.map, withEnvironment_merged, Except.bind]
  rcases env.whole "MONITOR_POLL_FPS" 0x100000000 .pollRateNotWhole with e | rate
  · rfl
  rcases env.whole "MONITOR_RETRY_BACKOFF_MS" 0x10000000000000000 .backoffNotWhole with e | backoff
  · rfl
  · rfl

/-! ### Checking -/

/-- What a configuration has to satisfy. -/
structure Valid (c : Config) : Prop where
  /-- The detection service is on the network or stood in for. -/
  detectionUrl : ∃ u, Url.parse c.detection.url = .ok u ∧ u.scheme ∈ ["http", "https", "stub"]
  /-- The channels are on the network. -/
  baseUrl : ∃ u, Url.parse c.dashboard.baseUrl = .ok u ∧ u.scheme ∈ ["http", "https"]
  /-- Channels are polled at all. -/
  pollRate : c.dashboard.policy.rate ≠ 0
  /-- Something is waited for after a failed poll. -/
  backoff : c.dashboard.policy.backoff ≠ ⟨0⟩
  /-- Frames are captured at all. -/
  frameRate : c.camera.frameRate ≠ 0
  /-- Every device has a name that is more than blanks. -/
  named : ∀ d ∈ c.camera.devices, ∃ ch ∈ d.id.toList, Text.isBlank ch = false
  /-- No two devices have the same name. -/
  devices : (c.camera.devices.map (·.id)).Nodup
  /-- No channel is listed twice. -/
  channels : c.dashboard.channels.Nodup

/-- Devices are accepted if they have names that are no one else's. -/
theorem checkDevices_eq_ok_iff {seen : List String} {ds : List Device} :
    checkDevices seen ds = .ok () ↔
      (∀ d ∈ ds, ∃ ch ∈ d.id.toList, Text.isBlank ch = false) ∧ (ds.map (·.id)).Nodup ∧
        ∀ d ∈ ds, d.id ∉ seen := by
  simp only [← Text.trim_ne_empty_iff]
  induction ds generalizing seen with
  | nil => simp [checkDevices]
  | cons d ds ih =>
    rw [checkDevices]
    by_cases hblank : Text.trim d.id = ""
    · simp [hblank]
    by_cases hseen : d.id ∈ seen
    · simp [hblank, hseen]
    rw [if_neg (by simp [hblank]), if_neg (by simp [hseen]), ih]
    -- the others have to differ from this one as well as from those before
    simp only [List.mem_cons, forall_eq_or_imp, List.map_cons, List.nodup_cons, List.mem_map,
      not_or, forall_and]
    constructor
    · rintro ⟨hnamed, hdistinct, hthis, hothers⟩
      refine ⟨⟨hblank, hnamed⟩, ⟨?_, hdistinct⟩, hseen, hothers⟩
      rintro ⟨e, he, hsame⟩
      exact hthis e he hsame
    · rintro ⟨⟨_, hnamed⟩, ⟨hthis, hdistinct⟩, _, hothers⟩
      exact ⟨hnamed, hdistinct, fun e he hsame => hthis ⟨e, he, hsame⟩, hothers⟩

/-- The checks, one after the other. -/
theorem check_eq (c : Config) :
    check c =
      (checkAddress "detection.url" c.detection.url ["http", "https", "stub"]).bind fun _ =>
      (checkAddress "dashboard.base_url" c.dashboard.baseUrl ["http", "https"]).bind fun _ =>
      if c.dashboard.policy.rate = 0 then .error .pollRateZero
      else if c.dashboard.policy.backoff.isZero then .error .backoffZero
      else if c.camera.frameRate = 0 then .error .frameRateZero
      else (checkDevices [] c.camera.devices).bind fun _ => .ok c.distinct := by
  unfold check
  rcases checkAddress "detection.url" c.detection.url ["http", "https", "stub"] with e | _
  · rfl
  rcases checkAddress "dashboard.base_url" c.dashboard.baseUrl ["http", "https"] with e | _
  · rfl
  simp only [bind, Except.bind]
  by_cases hrate : c.dashboard.policy.rate = 0
  · rw [if_pos hrate, if_pos hrate]
  by_cases hbackoff : c.dashboard.policy.backoff.isZero = true
  · rw [if_neg hrate, if_neg hrate, if_pos hbackoff, if_pos hbackoff]
  by_cases hframes : c.camera.frameRate = 0
  · rw [if_neg hrate, if_neg hrate, if_neg hbackoff, if_neg hbackoff, if_pos hframes,
      if_pos hframes]
  rw [if_neg hrate, if_neg hrate, if_neg hbackoff, if_neg hbackoff, if_neg hframes,
    if_neg hframes]
  rfl

/-- A configuration is accepted if it is valid once every channel is listed only once. -/
theorem check_eq_ok_iff {c c' : Config} : check c = .ok c' ↔ c' = c.distinct ∧ c'.Valid := by
  have hzero : c.dashboard.policy.backoff.isZero = true ↔ c.dashboard.policy.backoff = ⟨0⟩ := by
    rw [Span.isZero, beq_iff_eq]
    exact ⟨fun h => congrArg Span.mk h, fun h => congrArg Span.nanos h⟩
  rw [check_eq]
  simp only [bind_eq_ok_iff, hzero]
  constructor
  · rintro ⟨_, hurl, _, hbase, h⟩
    split at h
    · cases h
    split at h
    · cases h
    split at h
    · cases h
    case isFalse.isFalse.isFalse hrate hbackoff hframes =>
      obtain ⟨_, hdevices, hlast⟩ := bind_eq_ok_iff.mp h
      obtain ⟨hnamed, hdistinct, _⟩ := checkDevices_eq_ok_iff.mp hdevices
      cases hlast
      exact ⟨rfl, checkAddress_eq_ok_iff.mp hurl, checkAddress_eq_ok_iff.mp hbase, hrate, hbackoff,
        hframes, hnamed, hdistinct, (FirstOccurrences.eraseDups _).nodup⟩
  · rintro ⟨rfl, hvalid⟩
    have hrate : c.dashboard.policy.rate ≠ 0 := hvalid.pollRate
    have hbackoff : c.dashboard.policy.backoff ≠ ⟨0⟩ := hvalid.backoff
    have hframes : c.camera.frameRate ≠ 0 := hvalid.frameRate
    refine ⟨(), checkAddress_eq_ok_iff.mpr hvalid.detectionUrl, (),
      checkAddress_eq_ok_iff.mpr hvalid.baseUrl, ?_⟩
    rw [if_neg hrate, if_neg hbackoff, if_neg hframes, bind_eq_ok_iff]
    refine ⟨(), checkDevices_eq_ok_iff.mpr ⟨hvalid.named, hvalid.devices, ?_⟩, rfl⟩
    intro d _ hseen
    cases hseen

/-! ### Loading -/

/-- What is loaded is what the layers give, and valid. -/
theorem load_eq_ok_iff {files : String → Except FileFault ByteArray} {c : Config} :
    load env files = .ok c ↔ ∃ l : Layers, l.Found env files ∧ l.Gives c ∧ c.Valid := by
  rw [load_eq, bind_eq_ok_iff]
  simp only [readLayers_eq_ok_iff, check_eq_ok_iff, Layers.gives_iff]
  rfl

/-- The layers of an environment are found in one way only. -/
theorem Layers.Found.unique {files : String → Except FileFault ByteArray} {l l' : Layers}
    (h : l.Found env files) (h' : l'.Found env files) : l = l' :=
  Except.ok.inj ((readLayers_eq_ok_iff.mpr h).symm.trans (readLayers_eq_ok_iff.mpr h'))

section OneVariable

variable {env' : Environment}

/-- The text that counts depends on the variable alone. -/
theorem Environment.TextIs.unique {a b : Option String} (hsame : env.value name = env'.value name)
    (h : env.TextIs name a) (h' : env'.TextIs name b) : a = b := by
  rw [← filled_eq_iff.mpr h, ← filled_eq_iff.mpr h', Environment.filled, Environment.filled, hsame]

/-- The number that counts depends on the variable alone. -/
theorem Environment.NumberIs.unique {bound : Nat} {a b : Option Nat}
    (hsame : env.value name = env'.value name) (h : env.NumberIs name bound a)
    (h' : env'.NumberIs name bound b) : a = b := by
  have hread := (whole_eq_ok_iff .pollRateNotWhole).mpr h
  have hread' := (whole_eq_ok_iff .pollRateNotWhole).mpr h'
  rw [Environment.whole, hsame] at hread
  exact Except.ok.inj (hread.symm.trans hread')

/-- The channels that count depend on the variable alone. -/
theorem Environment.ChannelsAre.unique {a b : Option (List ChannelId)}
    (hsame : env.value "MONITOR_CHANNELS" = env'.value "MONITOR_CHANNELS")
    (h : env.ChannelsAre "MONITOR_CHANNELS" a) (h' : env'.ChannelsAre "MONITOR_CHANNELS" b) :
    a = b := by
  rw [← channels_eq_iff.mpr h, ← channels_eq_iff.mpr h', Environment.channels,
    Environment.channels, hsame]

/-- The file depends on the variable that names it alone. -/
theorem FileIs.unique {files : String → Except FileFault ByteArray} {a b : ConfigFile}
    (hsame : env.value "MONITOR_CONFIG" = env'.value "MONITOR_CONFIG") (h : FileIs env files a)
    (h' : FileIs env' files b) : a = b := by
  have hread := namedFile_eq_ok_iff.mpr h
  have hread' := namedFile_eq_ok_iff.mpr h'
  rw [namedFile, hsame] at hread
  exact Except.ok.inj (hread.symm.trans hread')

end OneVariable

/-- Two configurations are the same apart from the field that a variable of the environment fills
in. -/
structure SameApart (name : String) (c c' : Config) : Prop where
  /-- The address of the detection service. -/
  detectionUrl : name ≠ "MONITOR_DETECT_URL" → c.detection.url = c'.detection.url
  /-- How long to wait for the detection service; no variable fills it in. -/
  detectionTimeout : c.detection.timeout = c'.detection.timeout
  /-- The camera; no variable fills it in. -/
  camera : c.camera = c'.camera
  /-- The base address of the channels. -/
  baseUrl : name ≠ "MONITOR_CHANNEL_BASE_URL" → c.dashboard.baseUrl = c'.dashboard.baseUrl
  /-- The poll rate. -/
  pollRate : name ≠ "MONITOR_POLL_FPS" → c.dashboard.policy.rate = c'.dashboard.policy.rate
  /-- The delay after a failed poll. -/
  backoff : name ≠ "MONITOR_RETRY_BACKOFF_MS" →
    c.dashboard.policy.backoff = c'.dashboard.policy.backoff
  /-- How long to wait for a picture of a channel; no variable fills it in. -/
  pictureTimeout : c.dashboard.timeout = c'.dashboard.timeout
  /-- The channels. -/
  channels : name ≠ "MONITOR_CHANNELS" → c.dashboard.channels = c'.dashboard.channels
  /-- The font's file. -/
  fontPath : name ≠ "MONITOR_FONT_PATH" → c.fontPath = c'.fontPath

/-- The layers of two environments that differ in one variable give the same apart from the field of
that variable. -/
theorem Layers.Found.sameApart {env' : Environment}
    {files : String → Except FileFault ByteArray} {l l' : Layers} {c c' : Config}
    (h : l.Found env files) (hname : name ≠ "MONITOR_CONFIG")
    (hsame : ∀ other, other ≠ name → env.value other = env'.value other)
    (h' : l'.Found env' files) (hgives : l.Gives c) (hgives' : l'.Gives c') :
    SameApart name c c' := by
  have hfile : l.file = l'.file := h.file.unique (hsame _ hname.symm) h'.file
  have hformat : l.format = l'.format := by
    have hnamed := namedFormat_eq_ok_iff.mpr h.format
    rw [hfile, namedFormat_eq_ok_iff.mpr h'.format] at hnamed
    exact (Except.ok.inj hnamed).symm
  constructor
  case detectionUrl =>
    intro hne
    rw [hgives.detectionUrl, hgives'.detectionUrl, hfile,
      h.detectionUrl.unique (hsame _ hne.symm) h'.detectionUrl]
  case detectionTimeout => rw [hgives.detectionTimeout, hgives'.detectionTimeout, hfile]
  case camera =>
    rw [Layers.gives_iff.mp hgives, Layers.gives_iff.mp hgives']
    unfold settled merged distinct
    rw [hfile, hformat]
  case baseUrl =>
    intro hne
    rw [hgives.baseUrl, hgives'.baseUrl, hfile, h.baseUrl.unique (hsame _ hne.symm) h'.baseUrl]
  case pollRate =>
    intro hne
    rw [hgives.pollRate, hgives'.pollRate, hfile, h.pollRate.unique (hsame _ hne.symm) h'.pollRate]
  case backoff =>
    intro hne
    rw [hgives.backoff, hgives'.backoff, hfile, h.backoff.unique (hsame _ hne.symm) h'.backoff]
  case pictureTimeout => rw [hgives.pictureTimeout, hgives'.pictureTimeout, hfile]
  case channels =>
    intro hne
    rw [hgives.channels.eq_eraseDups, hgives'.channels.eq_eraseDups, hfile,
      h.channels.unique (hsame _ hne.symm) h'.channels]
  case fontPath =>
    intro hne
    rw [hgives.fontPath, hgives'.fontPath, hfile, h.fontPath.unique (hsame _ hne.symm) h'.fontPath]

/-- **Loading is layering and checking.**  Whatever the environment and the files are:

* what is loaded is what the layers give, and it is valid;
* where the layers are found, a configuration that they give is loaded if it is valid, and loading
  fails if it is not;
* where they are not found, because the file cannot be read, names a format that is not known, or a
  number is none, loading fails;
* if another environment differs in one variable only, and that is not the one that names the file,
  then what is loaded there is the same apart from the field of that variable. -/
theorem load_by_layers (env : Environment) (files : String → Except FileFault ByteArray) :
    (∀ c, load env files = .ok c → ∃ l : Layers, l.Found env files ∧ l.Gives c ∧ c.Valid) ∧
    (∀ l : Layers, l.Found env files → ∃ c, l.Gives c ∧ (c.Valid → load env files = .ok c) ∧
      (¬c.Valid → ∃ e, load env files = .error e)) ∧
    ((∀ l : Layers, ¬l.Found env files) → ∃ e, load env files = .error e) ∧
    ∀ (name : String) (env' : Environment), name ≠ "MONITOR_CONFIG" →
      (∀ other, other ≠ name → env.value other = env'.value other) →
      ∀ c c', load env files = .ok c → load env' files = .ok c' → SameApart name c c' := by
  have hfails : (∀ c, load env files ≠ .ok c) → ∃ e, load env files = .error e := by
    intro hnone
    rcases hload : load env files with e | c
    · exact ⟨e, rfl⟩
    · exact absurd hload (hnone c)
  refine ⟨fun c => load_eq_ok_iff.mp, ?_, ?_, ?_⟩
  · intro l hfound
    refine ⟨l.settled, Layers.gives_iff.mpr rfl, ?_, ?_⟩
    · intro hvalid
      exact load_eq_ok_iff.mpr ⟨l, hfound, Layers.gives_iff.mpr rfl, hvalid⟩
    · intro hinvalid
      refine hfails fun c hload => ?_
      obtain ⟨l', hfound', hgives, hvalid⟩ := load_eq_ok_iff.mp hload
      obtain rfl := hfound.unique hfound'
      rw [Layers.gives_iff.mp hgives] at hvalid
      exact hinvalid hvalid
  · intro hnone
    refine hfails fun c hload => ?_
    obtain ⟨l, hfound, _⟩ := load_eq_ok_iff.mp hload
    exact hnone l hfound
  · intro name env' hname hsame c c' hload hload'
    obtain ⟨l, hfound, hgives, _⟩ := load_eq_ok_iff.mp hload
    obtain ⟨l', hfound', hgives', _⟩ := load_eq_ok_iff.mp hload'
    exact hfound.sameApart hname hsame hfound' hgives hgives'

/-- An environment that names a file, lists channels and sets the poll rate. -/
def pollingAt (rate : String) : Environment where
  value
    | "MONITOR_CONFIG" => some "monitor.json"
    | "MONITOR_CHANNELS" => some " a/1, ,b/2,a/1"
    | "MONITOR_POLL_FPS" => some rate
    | _ => none

/-- A file with two addresses and a poll rate. -/
def pollingFile : String :=
  Json.object [
    ("detection", Json.object [("url", Json.string "stub://detector")]),
    ("dashboard", Json.object [
      ("base_url", Json.string "http://[::1]:8080"), ("fps_target", "4")])]

/-- What the file and that environment amount to. -/
def pollingConfig (rate : Nat) : Config where
  detection := { url := "stub://detector" }
  dashboard := {
    baseUrl := "http://[::1]:8080"
    policy := { rate }
    channels := [⟨"a/1"⟩, ⟨"b/2"⟩] }

/-- Two environments with different poll rates, and one in which the poll rate is no number. -/
theorem layers_of_three_rates :
    let files := fun _ => .ok pollingFile.toUTF8
    load (pollingAt " +7 ") files = .ok (pollingConfig 7) ∧
      load (pollingAt "9") files = .ok (pollingConfig 9) ∧
      (∃ l : Layers, l.Found (pollingAt " +7 ") files ∧ l.Gives (pollingConfig 7) ∧
        (pollingConfig 7).Valid) ∧
      SameApart "MONITOR_POLL_FPS" (pollingConfig 7) (pollingConfig 9) ∧
      ∃ e, load (pollingAt "seven") files = .error e := by
  intro files
  have hseven : load (pollingAt " +7 ") files = .ok (pollingConfig 7) :=
    eq_ok_of_toOption (by decide +kernel)
  have hnine : load (pollingAt "9") files = .ok (pollingConfig 9) :=
    eq_ok_of_toOption (by decide +kernel)
  obtain ⟨hgiven, _, _, hsame⟩ := load_by_layers (pollingAt " +7 ") files
  obtain ⟨_, _, hfails, _⟩ := load_by_layers (pollingAt "seven") files
  refine ⟨hseven, hnine, hgiven _ hseven, ?_, ?_⟩
  · refine hsame "MONITOR_POLL_FPS" (pollingAt "9") (by decide) ?_ _ _ hseven hnine
    intro other hother
    unfold pollingAt
    dsimp only
    split
    · rfl
    · rfl
    · exact absurd rfl hother
    · rfl
  · refine hfails fun l hfound => ?_
    have hread := (whole_eq_ok_iff .pollRateNotWhole).mpr hfound.pollRate
    cases hread

end Config

end Lookout
