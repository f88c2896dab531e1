import Lookout.Config.Error
import Lookout.Config.File
import Lookout.Poll.Policy
import Lookout.Text.Reading
import Lookout.Url.Basic
/-!
# The configuration

A configuration is laid down in three layers: the defaults, the file over them, and the environment
over both.  What results is checked as a whole (`Config.check`), so that a fault in a lower layer
that a higher one mends is no fault.
-/

namespace Lookout

/-- How to reach the detection service. -/
structure DetectionSettings where
  /-- Where it listens. -/
  url : String := "http://127.0.0.1:8080/"
  /-- How long to wait for an answer. -/
  timeout : Span := .ofMillis 5000
  deriving DecidableEq, Repr

/-- The device that is there when no other is configured. -/
def syntheticDevice : Device where
  id := "stub-camera"
  label := "Synthetic camera"
  url := "stub://camera"

/-- How to capture. -/
structure CameraSettings where
  /-- The devices to choose from. -/
  devices : List Device := [syntheticDevice]
  /-- What the capture has to satisfy. -/
  constraints : Constraints := {}
  /-- Frames in a second. -/
  frameRate : Nat := 30
  /-- The format of snapshots. -/
  format : SnapshotFormat := .jpeg
  deriving DecidableEq, Repr

/-- How to poll channels. -/
structure DashboardSettings where
  /-- The address below which the channels' pictures are. -/
  baseUrl : String := "http://127.0.0.1:8080"
  /-- When to poll again. -/
  policy : PollPolicy := {}
  /-- How long to wait for a picture. -/
  timeout : Span := .ofMillis 5000
  /-- The channels that are watched. -/
  channels : List ChannelId := []
  deriving DecidableEq, Repr

/-- A configuration. -/
structure Config where
  /-- The detection service. -/
  detection : DetectionSettings := {}
  /-- The camera. -/
  camera : CameraSettings := {}
  /-- The dashboard. -/
  dashboard : DashboardSettings := {}
  /-- The file with the font for labels; without one labels are plain tabs. -/
  fontPath : Option String := none
  deriving DecidableEq, Repr

namespace Config

/-! ## The file over the defaults -/

/-- The format that a file names. -/
def formatOf (name : Option String) : Except ConfigError SnapshotFormat :=
  match name with
  | none => .ok ({} : CameraSettings).format
  | some name => (SnapshotFormat.parse name).mapError .format

/-- The defaults with a file laid over them. -/
def ofFile (file : ConfigFile) : Except ConfigError Config := do
  let base : Config := {}
  let format ← formatOf file.camera.format
  return {
    detection := {
      url := file.detection.url.getD base.detection.url
      timeout := (file.detection.timeout.map .ofMillis).getD base.detection.timeout }
    camera := {
      devices := file.camera.devices.getD base.camera.devices
      constraints := file.camera.constraints.getD base.camera.constraints
      frameRate := file.camera.frameRate.getD base.camera.frameRate
      format }
    dashboard := {
      baseUrl := file.dashboard.baseUrl.getD base.dashboard.baseUrl
      policy := {
        rate := file.dashboard.pollRate.getD base.dashboard.policy.rate
        backoff := (file.dashboard.backoff.map .ofMillis).getD base.dashboard.policy.backoff }
      timeout := (file.dashboard.timeout.map .ofMillis).getD base.dashboard.timeout
      channels := file.dashboard.channels.getD base.dashboard.channels }
    fontPath := file.fontPath }

/-! ## The environment over both -/

/-- The variables of the environment. -/
structure Environment where
  /-- The value of a variable; one that is not set, or not to a text, has none. -/
  value : String → Option String
  /-- The variable is set, but not to a text. -/
  isUnreadable : String → Bool := fun _ => false

/-- The value of a variable, if it is more than blanks. -/
def Environment.filled (env : Environment) (name : String) : Option String :=
  (env.value name).filter fun value => !(Text.trim value).isEmpty

/-- The value of a variable as a whole number below `bound`, blanks around it ignored; `onFault` if
it is set and is no such number. -/
def Environment.whole (env : Environment) (name : String) (bound : Nat) (onFault : ConfigError) :
    Except ConfigError (Option Nat) :=
  match env.value name with
  | none => .ok none
  | some value =>
    match Text.whole? bound (Text.trim value) with
    | some n => .ok (some n)
    | none => .error onFault

/-- The parts of a text between commas. -/
def splitCommas : List Char → List (List Char)
  | [] => [[]]
  | c :: cs =>
    if c = ',' then [] :: splitCommas cs
    else match splitCommas cs with
      | part :: parts => (c :: part) :: parts
      | [] => [[c]]

/-- The entries of a list that commas separate, without the blanks around them; empty entries are
dropped. -/
def listEntries (text : String) : List String :=
  ((splitCommas text.toList).map fun part => Text.trim (String.ofList part)).filter (!·.isEmpty)

/-- The channels that the environment lists, if it lists any. -/
def Environment.channels (env : Environment) : Option (List ChannelId) :=
  match (env.value "MONITOR_CHANNELS").map listEntries with
  | some (entry :: entries) => some ((entry :: entries).map ChannelId.mk)
  | _ => none

/-- A configuration with an environment laid over it. -/
def withEnvironment (c : Config) (env : Environment) : Except ConfigError Config := do
  let rate ← env.whole "MONITOR_POLL_FPS" 0x100000000 .pollRateNotWhole
  let backoff ← env.whole "MONITOR_RETRY_BACKOFF_MS" 0x10000000000000000 .backoffNotWhole
  return { c with
    detection := { c.detection with url := (env.filled "MONITOR_DETECT_URL").getD c.detection.url }
    dashboard := { c.dashboard with
      baseUrl := (env.filled "MONITOR_CHANNEL_BASE_URL").getD c.dashboard.baseUrl
      policy := {
        rate := rate.getD c.dashboard.policy.rate
        backoff := (backoff.map .ofMillis).getD c.dashboard.policy.backoff }
      channels := env.channels.getD c.dashboard.channels }
    fontPath := env.filled "MONITOR_FONT_PATH" <|> c.fontPath }

/-! ## What has to hold -/

/-- An address has to be one, and its scheme one of those that are served. -/
def checkAddress (field value : String) (schemes : List String) : Except ConfigError Unit :=
  match Url.parse value with
  | .error cause => .error (.address field value (.malformed cause))
  | .ok u =>
    if schemes.contains u.scheme then .ok ()
    else .error (.address field value (.scheme u.scheme))

/-- Every device has to have a name, and one that no device before it has. -/
def checkDevices (seen : List String) : List Device → Except ConfigError Unit
  | [] => .ok ()
  | d :: ds =>
    if (Text.trim d.id).isEmpty then .error .deviceUnnamed
    else if seen.contains d.id then .error (.deviceRepeated d.id)
    else checkDevices (d.id :: seen) ds

/-- Refuse a configuration that cannot be used, and keep each channel only where it is first
listed. -/
def check (c : Config) : Except ConfigError Config := do
  checkAddress "detection.url" c.detection.url ["http", "https", "stub"]
  checkAddress "dashboard.base_url" c.dashboard.baseUrl ["http", "https"]
  if c.dashboard.policy.rate = 0 then .error .pollRateZero
  if c.dashboard.policy.backoff.isZero then .error .backoffZero
  if c.camera.frameRate = 0 then .error .frameRateZero
  checkDevices [] c.camera.devices
  return { c with dashboard := { c.dashboard with channels := c.dashboard.channels.eraseDups } }

/-! ## All of it -/

/-- Read the file at a path, given what it holds. -/
def readFile (path : String) (contents : Except FileFault ByteArray) :
    Except ConfigError ConfigFile := do
  let octets ← contents.mapError (.unreadable path)
  match String.fromUTF8? octets with
  | none => .error (.unreadable path .notText)
  | some text => (ConfigFile.read text).mapError (.malformed path)

/-- Load the configuration: the defaults, then the file that the environment names, then the
environment itself. -/
def load (env : Environment) (files : String → Except FileFault ByteArray) :
    Except ConfigError Config := do
  let file ← match env.value "MONITOR_CONFIG" with
    | some path => readFile path (files path)
    | none => pure {}
  check (← (← ofFile file).withEnvironment env)

/-- The devices that can be chosen from. -/
def catalog (c : Config) : Catalog := ⟨c.camera.devices⟩

end Config

end Lookout
