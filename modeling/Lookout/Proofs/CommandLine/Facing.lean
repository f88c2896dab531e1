import Mathlib.Data.List.Nodup
import Lookout.CommandLine.LiveDetection
import Lookout.Proofs.Capture.FirstDevice
import Lookout.Proofs.CommandLine.Options
import Lookout.Proofs.Config.Layers
import Lookout.Proofs.Pipeline.History
import Lookout.Proofs.Url.Scheme
import Lookout.Simulation.World
/-!
# Which facing counts

A configuration may ask for a facing, and so may the command line of live detection.  This is about
the device that is opened if only the configuration does.

* **The facing of the configuration does not count** (`opened_whatever_facing`): without the option
  the facing control stands where any facing will do, and that is what the request asks for.  The
  device that is opened is the first one that has everything else that is asked for, and it looks
  where the configuration asks exactly if it is the device that the configured request would have
  found.
* So of two cameras the wrong one may be opened (`desk_opened_for_door`), unless the right one is
  named (`door_opened_if_named`).

A device of the configuration is treated otherwise: it counts as long as the command line names
none (`configured`).
-/

namespace Lookout

/-! ### The device that is opened -/

/-- The first device that is admitted whatever its facing has the facing that is asked for exactly
if it is the first one that is admitted with it. -/
theorem Catalog.facing_eq_iff {catalog : Catalog} {c : Constraints} {f : Facing} {d : Device}
    (hfacing : c.facing = some f) (h : catalog.FirstAdmitted (c.withFacing none) d) :
    d.facing = some f ↔ catalog.FirstAdmitted c d := by
  obtain ⟨before, after, hdevices, hkind, hadmits, hbefore⟩ := h
  constructor
  · intro heq
    refine ⟨before, after, hdevices, hkind, ?_, ?_⟩
    · have hlooks : ∀ g, c.facing = some g → d.facing = some g := fun g hg => by
        rw [heq, ← hfacing, hg]
      exact ⟨hadmits.deviceId, hlooks, hadmits.width, hadmits.height⟩
    · intro e he hvideo hadmitted
      exact hbefore e he hvideo ⟨hadmitted.deviceId, nofun, hadmitted.width, hadmitted.height⟩
  · rintro ⟨-, -, -, -, hadmitted, -⟩
    exact hadmitted.facing f hfacing

namespace Pipeline

variable {σ κ δ ω : Type} [FrameSource κ ω Float]

/-- A session that has begun is that of the device it was begun for. -/
theorem deviceId_of_start {id : String} {c : Constraints} {source : κ} {w w' : ω} {s : Session κ}
    (h : Session.start id c source w = (.ok s, w')) : s.deviceId = id := by
  unfold Session.start at h
  rcases hconnect : FrameSource.connect source w with ⟨e | _, source', v⟩
  · rw [hconnect] at h
    cases h
  · rw [hconnect] at h
    cases h
    rfl

omit [FrameSource κ ω Float] in
/-- The device that a request is given is the one that it is resolved to. -/
theorem exists_of_deviceFor {catalog : Catalog}
    {sourceOf : SourceSettings → Except AcquisitionError κ} {rate : Nat} {c : Constraints}
    {id : String} {source : κ} (h : deviceFor catalog sourceOf rate c = .ok (.ok (id, source))) :
    ∃ r, catalog.resolve c = .ok (.ok r) ∧ id = r.device.id := by
  unfold deviceFor at h
  obtain ⟨resolved, hresolve, h⟩ := Results.bind_eq_ok_iff.mp h
  rcases resolved with e | r
  · cases h
  rcases hsource : sourceOf (Session.settingsOf r rate) with e | source'
  · simp only [hsource] at h
    cases h
  · simp only [hsource] at h
    cases h
    exact ⟨r, hresolve, rfl⟩

/-- A capture that has begun is of the device that its request is resolved to. -/
theorem exists_of_start {p p' : Pipeline σ κ δ} {c : Constraints} {w w' : ω}
    (h : p.start c w = .ok (.ok (), p', w')) :
    ∃ r s, p.catalog.resolve c = .ok (.ok r) ∧ p'.session = some s ∧ s.deviceId = r.device.id := by
  rw [start_eq] at h
  obtain ⟨found, hfound, h⟩ := Results.map_eq_ok_iff.mp h
  rcases found with e | ⟨id, source⟩
  · cases h
  obtain ⟨r, hresolve, rfl⟩ := exists_of_deviceFor hfound
  have h : p.restart r.device.id c source w = (.ok (), p', w') := h
  unfold restart at h
  rcases hstart : Session.start r.device.id c source (p.stop w).2 with ⟨e | s, v⟩
  · rw [hstart] at h
    cases h
  · rw [hstart] at h
    cases h
    exact ⟨r, s, hresolve, rfl, deviceId_of_start hstart⟩

end Pipeline

namespace CommandLine.LiveDetection

open Results

variable {i : Invocation} {c : Config} {p p' : LivePipeline} {request : Constraints}
  {options : Options} {f : Facing}

/-- A capture follows from the options and the configuration. -/
theorem exists_of_task (h : task i = .ok (.capture p request options)) :
    ∃ v c font, grammar.read i.environment i.arguments = .ok v ∧ i.config = .ok c ∧
      options = .ofValues v ∧ p = pipelineFor c font ∧ request = options.constraints c := by
  obtain ⟨v, hvalues, h⟩ := bind_eq_ok_iff.mp h
  obtain ⟨c, hconfig, h⟩ := bind_eq_ok_iff.mp h
  have hread := mapError_eq_ok_iff.mp hvalues
  by_cases hlist : (Options.ofValues v).listDevices = true
  · rw [if_pos hlist] at h
    cases h
  rw [if_neg hlist] at h
  obtain ⟨font, -, h⟩ := bind_eq_ok_iff.mp h
  cases h
  exact ⟨v, c, font, hread, hconfig, rfl, rfl, rfl⟩

/-- What there is to do if it is not to list the devices, and no font is configured. -/
theorem task_of_values {v : Values}
    (hvalues : grammar.values i.environment i.arguments = .ok v) (hconfig : i.config = .ok c)
    (hlist : (Options.ofValues v).listDevices = false) (hfont : c.fontPath = none) :
    task i =
      .ok (.capture (pipelineFor c none) ((Options.ofValues v).constraints c) (.ofValues v)) := by
  refine bind_eq_ok_iff.mpr ⟨v, hvalues, bind_eq_ok_iff.mpr ⟨c, hconfig, ?_⟩⟩
  rw [if_neg (by simp [hlist])]
  refine bind_eq_ok_iff.mpr ⟨none, ?_, rfl⟩
  unfold loadFont
  rw [hfont]
  rfl

/-- Without the option, the facing control stands where any facing will do. -/
theorem facing_of_not_gives {env : Config.Environment} {arguments : List String} {v : Values}
    (h : grammar.read env arguments = .ok v) (hnot : ¬Gives arguments "facing") :
    (Options.ofValues v).facing = .any := by
  have hvalue : v.value? "facing" = some "default" := by
    rw [Grammar.value?_of_not_gives h hnot (by decide)]
    decide
  unfold Options.ofValues
  rw [hvalue]
  rfl

/-- The request of the configuration, for the device of the command line if there is one. -/
def configured (c : Config) (options : Options) : Constraints :=
  c.camera.constraints.withDevice (options.device <|> c.camera.constraints.deviceId)

/-- **Without the option the configured facing does not count.** -/
theorem opened_whatever_facing (hconfig : i.config = .ok c)
    (hfacing : c.camera.constraints.facing = some f) (hnot : ¬Gives i.arguments "facing")
    (htask : task i = .ok (.capture p request options)) :
    request = (configured c options).withFacing none ∧
      ∀ (ω : Type) [Clock ω Float] [Net.Network ω] (w w' : ω) (p' : LivePipeline),
        p.start request w = .ok (.ok (), p', w') →
          ∃ s d, p'.session = some s ∧ s.deviceId = d.id ∧
            (∀ e ∈ c.camera.devices, e.id = s.deviceId → e = d) ∧
            c.catalog.FirstAdmitted request d ∧
            (d.facing = some f ↔ c.catalog.FirstAdmitted (configured c options) d) := by
  obtain ⟨v, c', font, hread, hconfig', rfl, rfl, rfl⟩ := exists_of_task htask
  obtain rfl : c = c' := Except.ok.inj (hconfig.symm.trans hconfig')
  have hrequest : (Options.ofValues v).constraints c =
      (configured c (Options.ofValues v)).withFacing none := by
    unfold Options.constraints
    rw [facing_of_not_gives hread hnot]
    rfl
  refine ⟨hrequest, fun ω _ _ w w' p' hstart => ?_⟩
  obtain ⟨r, s, hresolve, hsession, hid⟩ := Pipeline.exists_of_start hstart
  have hfirst : c.catalog.FirstAdmitted ((Options.ofValues v).constraints c) r.device :=
    Catalog.firstAdmitted_of_resolve hresolve
  have hmem : r.device ∈ c.camera.devices := by
    obtain ⟨before, after, hdevices, -⟩ := hfirst
    rw [show c.camera.devices = before ++ r.device :: after from hdevices]
    simp
  have hdistinct : (c.camera.devices.map (·.id)).Nodup := by
    obtain ⟨-, -, -, hvalid⟩ := Config.load_eq_ok_iff.mp (mapError_eq_ok_iff.mp hconfig)
    exact hvalid.devices
  refine ⟨s, r.device, hsession, hid, ?_, hfirst, ?_⟩
  · intro e he hsame
    exact List.inj_on_of_nodup_map hdistinct he hmem (hsame.trans hid)
  · rw [hrequest] at hfirst
    exact Catalog.facing_eq_iff hfacing hfirst

/-! ### Two cameras -/

/-- A camera that makes frames up and looks somewhere. -/
def madeUpCamera (id : String) (facing : Facing) : Device where
  id := id
  url := "stub://camera"
  facing := some facing

/-- Such a camera in a file. -/
def cameraText (id : String) (facing : Facing) : String :=
  Json.object [
    ("device_id", Json.string id),
    ("url", Json.string "stub://camera"),
    ("facing", Json.string facing.name)]

/-- A file that lists two cameras, one on a desk and one at a door, and asks for one that looks away
from the person. -/
def outwardFile : String :=
  Json.object [("camera", Json.object [
    ("devices", "[" ++ cameraText "desk" .user ++ "," ++ cameraText "door" .environment ++ "]"),
    ("constraints", Json.object [("facing_mode", Json.string "environment")])])]

/-- An environment that names such a file, and the addresses that a configuration needs. -/
def outwardEnvironment : Config.Environment where
  value
    | "MONITOR_CONFIG" => some "monitor.json"
    | "MONITOR_DETECT_URL" => some "stub://detector"
    | "MONITOR_CHANNEL_BASE_URL" => some "http://[::1]:8080"
    | _ => none

/-- What the program is started with: that file, and some arguments. -/
def outwardInvocation (arguments : List String) : Invocation where
  arguments
  environment := outwardEnvironment
  files _ := .ok outwardFile.toUTF8

/-- The configuration of such a start. -/
def outwardConfig : Config where
  detection := { url := "stub://detector" }
  camera := {
    devices := [madeUpCamera "desk" .user, madeUpCamera "door" .environment]
    constraints := { facing := some .environment } }
  dashboard := { baseUrl := "http://[::1]:8080" }

/-- What the program then asks for: the device that is named, or any, whatever its facing. -/
def outwardRequest (device : Option String) : Constraints where
  deviceId := device

variable {arguments : List String}

theorem config_outward : (outwardInvocation arguments).config = .ok outwardConfig := by
  have hload : Config.load outwardEnvironment (fun _ => .ok outwardFile.toUTF8) =
      .ok outwardConfig := by
    rw [Config.load_toUTF8 rfl rfl]
    -- the errors of a configuration cannot be compared, so the answer is compared as an option
    exact eq_ok_of_toOption (by decide +kernel)
  exact mapError_eq_ok_iff.mpr hload

/-- It captures what it is asked for. -/
theorem task_outward {v : Values} (hvalues : grammar.values outwardEnvironment arguments = .ok v)
    (hlist : (Options.ofValues v).listDevices = false) :
    task (outwardInvocation arguments) = .ok (.capture (pipelineFor outwardConfig none)
      ((Options.ofValues v).constraints outwardConfig) (.ofValues v)) :=
  task_of_values hvalues config_outward hlist rfl

/-- A camera that makes its frames up is opened if the request is resolved to it. -/
theorem start_outward {request : Constraints} {d : Device} (hurl : d.url = "stub://camera")
    (hresolve : outwardConfig.catalog.resolve request = .ok (.ok ⟨d, 1920, 1080⟩)) :
    ∃ p' w' s, (pipelineFor outwardConfig none).start request
        (Simulation.World.start [] : Simulation.World Float) = .ok (.ok (), p', w') ∧
      p'.session = some s ∧ s.deviceId = d.id := by
  have hdevice : Pipeline.deviceFor outwardConfig.catalog (Camera.ofSettings (τ := Float)) 30
      request = .ok (.ok (d.id, .inl (.ofSettings (Session.settingsOf ⟨d, 1920, 1080⟩ 30)))) := by
    have hstub : (Session.settingsOf ⟨d, 1920, 1080⟩ 30).url.startsWith "stub://" = true := by
      show d.url.startsWith "stub://" = true
      rw [hurl]
      decide +kernel
    unfold Pipeline.deviceFor
    rw [hresolve]
    simp only [bind, Except.bind, Camera.ofSettings_of_stub hstub]
    rfl
  rw [Pipeline.start_eq]
  show ∃ p' w' s, (Pipeline.deviceFor outwardConfig.catalog (Camera.ofSettings (τ := Float)) 30
    request).map _ = _ ∧ _
  rw [hdevice]
  exact ⟨_, _, _, rfl, rfl, rfl⟩

/-- **The camera at the door is opened if it is named**, and it looks where the configuration
asks. -/
theorem door_opened_if_named :
    let i := outwardInvocation ["--device", "door"]
    let options : Options := { device := some "door" }
    i.config = .ok outwardConfig ∧
      outwardConfig.camera.constraints.facing = some .environment ∧
      ¬Gives i.arguments "facing" ∧
      task i = .ok
        (.capture (pipelineFor outwardConfig none) (outwardRequest (some "door")) options) ∧
      outwardConfig.catalog.FirstAdmitted (configured outwardConfig options)
        (madeUpCamera "door" .environment) ∧
      ∃ p' w' s, (pipelineFor outwardConfig none).start (outwardRequest (some "door"))
          (Simulation.World.start [] : Simulation.World Float) = .ok (.ok (), p', w') ∧
        p'.session = some s ∧ s.deviceId = "door" := by
  intro i options
  have hnot : ¬Gives i.arguments "facing" := by
    have hname : Word.of "--device" = .long "device" none := rfl
    have hvalue : Word.of "door" = .plain := rfl
    rintro ⟨a, ha, value, hword⟩
    rcases List.mem_pair.mp ha with rfl | rfl
    · rw [hname] at hword
      simp at hword
    · rw [hvalue] at hword
      cases hword
  have hvalues : grammar.values outwardEnvironment ["--device", "door"] =
      .ok ⟨[("facing", "default"), ("device", "door")]⟩ := rfl
  have htask := task_outward hvalues rfl
  have hresolve : outwardConfig.catalog.resolve (outwardRequest (some "door")) =
      .ok (.ok ⟨madeUpCamera "door" .environment, 1920, 1080⟩) := rfl
  obtain ⟨p', w', s, hstart, hsession, hid⟩ := start_outward rfl hresolve
  obtain ⟨-, hopened⟩ := opened_whatever_facing (f := .environment) config_outward rfl hnot htask
  obtain ⟨s', d, hsession', -, honly, -, hfacing⟩ := hopened _ _ w' p' hstart
  obtain rfl : s = s' := Option.some.inj (hsession.symm.trans hsession')
  have hdoor : madeUpCamera "door" .environment = d := honly _ (.tail _ (.head _)) hid.symm
  rw [← hdoor] at hfacing
  exact ⟨config_outward, rfl, hnot, htask, hfacing.mp rfl, p', w', s, hstart, hsession, hid⟩

/-- **Else the camera on the desk is opened for it**: it comes first, and it is opened although it
faces the person, the configuration asks for a camera that looks away, and there is one. -/
theorem desk_opened_for_door :
    let i := outwardInvocation []
    i.config = .ok outwardConfig ∧
      outwardConfig.camera.constraints.facing = some .environment ∧
      ¬Gives i.arguments "facing" ∧
      task i = .ok (.capture (pipelineFor outwardConfig none) (outwardRequest none) {}) ∧
      outwardConfig.catalog.FirstAdmitted (configured outwardConfig {})
        (madeUpCamera "door" .environment) ∧
      outwardConfig.camera.devices =
        [madeUpCamera "desk" .user, madeUpCamera "door" .environment] ∧
      ∃ p' w' s, (pipelineFor outwardConfig none).start (outwardRequest none)
          (Simulation.World.start [] : Simulation.World Float) = .ok (.ok (), p', w') ∧
        p'.session = some s ∧ s.deviceId = "desk" := by
  intro i
  have hnot : ¬Gives i.arguments "facing" := by
    rintro ⟨a, ha, -⟩
    cases ha
  have hvalues : grammar.values outwardEnvironment [] = .ok ⟨[("facing", "default")]⟩ := rfl
  have hfirst : outwardConfig.catalog.FirstAdmitted (configured outwardConfig {})
      (madeUpCamera "door" .environment) :=
    ⟨[madeUpCamera "desk" .user], [], rfl, rfl, by decide, by decide⟩
  have hresolve : outwardConfig.catalog.resolve (outwardRequest none) =
      .ok (.ok ⟨madeUpCamera "desk" .user, 1920, 1080⟩) := rfl
  exact ⟨config_outward, rfl, hnot, task_outward hvalues rfl, hfirst, rfl,
    start_outward rfl hresolve⟩

end CommandLine.LiveDetection

end Lookout
