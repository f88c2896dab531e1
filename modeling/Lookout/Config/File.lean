import Lookout.Capture.Catalog
import Lookout.Poll.Channel
/-!
# The configuration file

The file is a JSON record of four sections.  Every section and every field may be left out or be
`null`, which leaves the default in force.
-/

namespace Lookout.ConfigFile

/-- What the file says about the detection service. -/
structure Detection where
  /-- Where the service listens. -/
  url : Option String := none
  /-- How long to wait for it, in milliseconds. -/
  timeout : Option Nat := none

/-- What the file says about the camera. -/
structure Camera where
  /-- The devices to choose from. -/
  devices : Option (List Device) := none
  /-- What the capture has to satisfy. -/
  constraints : Option Constraints := none
  /-- Frames in a second. -/
  frameRate : Option Nat := none
  /-- The name of the snapshot format. -/
  format : Option String := none

/-- What the file says about the dashboard. -/
structure Dashboard where
  /-- The address below which the channels' pictures are. -/
  baseUrl : Option String := none
  /-- Polls in a second. -/
  pollRate : Option Nat := none
  /-- The delay after a failed poll, in milliseconds. -/
  backoff : Option Nat := none
  /-- How long to wait for a picture, in milliseconds. -/
  timeout : Option Nat := none
  /-- The channels that are watched. -/
  channels : Option (List ChannelId) := none

end ConfigFile

/-- What a configuration file says. -/
structure ConfigFile where
  /-- The detection service. -/
  detection : ConfigFile.Detection := {}
  /-- The camera. -/
  camera : ConfigFile.Camera := {}
  /-- The dashboard. -/
  dashboard : ConfigFile.Dashboard := {}
  /-- The file with the font for labels. -/
  fontPath : Option String := none

namespace ConfigFile

/-- A record in which every field may be left out or be `null`. -/
def sparse (name : String) (fields : List (String × Json.Shape)) : Json.Shape :=
  .record name (.ofList (fields.map fun (field, shape) => (field, .optional, .optional shape)))

/-- The section about the detection service. -/
def Detection.shape : Json.Shape :=
  sparse "DetectionConfigFile" [("url", .text), ("timeout_ms", .nat64)]

/-- The section that was read. -/
def Detection.ofDatum (d : Json.Datum) : Detection where
  url := (d.field 0).text?
  timeout := (d.field 1).natural?

/-- The section about the camera. -/
def Camera.shape : Json.Shape :=
  sparse "CameraConfigFile" [
    ("devices", .sequence Device.shape),
    ("constraints", Constraints.shape),
    ("target_fps", .nat32),
    ("format", .text)]

/-- The section that was read. -/
def Camera.ofDatum (d : Json.Datum) : Camera where
  devices := (d.field 0).list?.map (·.map Device.ofDatum)
  constraints := (d.field 1).present?.map Constraints.ofDatum
  frameRate := (d.field 2).natural?
  format := (d.field 3).text?

/-- The section about the dashboard. -/
def Dashboard.shape : Json.Shape :=
  sparse "DashboardConfigFile" [
    ("base_url", .text),
    ("fps_target", .nat32),
    ("retry_backoff_ms", .nat64),
    ("timeout_ms", .nat64),
    ("channels", .sequence .text)]

/-- The section that was read. -/
def Dashboard.ofDatum (d : Json.Datum) : Dashboard where
  baseUrl := (d.field 0).text?
  pollRate := (d.field 1).natural?
  backoff := (d.field 2).natural?
  timeout := (d.field 3).natural?
  channels := (d.field 4).list?.map (·.map fun c => ⟨c.text?.getD ""⟩)

/-- The section about drawing. -/
def renderShape : Json.Shape := sparse "RenderConfigFile" [("font_path", .path)]

/-- A configuration file. -/
def shape : Json.Shape :=
  sparse "MonitorConfigFile" [
    ("detection", Detection.shape),
    ("camera", Camera.shape),
    ("dashboard", Dashboard.shape),
    ("render", renderShape)]

/-- The file that was read; a section that is not there says nothing. -/
def ofDatum (d : Json.Datum) : ConfigFile where
  detection := Detection.ofDatum (d.field 0)
  camera := Camera.ofDatum (d.field 1)
  dashboard := Dashboard.ofDatum (d.field 2)
  fontPath := ((d.field 3).field 0).text?

/-- Read a configuration file. -/
def read (text : String) : Except Json.Error ConfigFile := (Json.read shape text).map ofDatum

end ConfigFile

end Lookout
