import Lookout.Capture.Constraints
import Lookout.Capture.Error
/-!
# The devices that are known

A catalog lists devices in the order of the configuration.  A request is resolved to the first
video input that satisfies every constraint, together with the size to capture at.
-/

namespace Lookout

/-- What a device captures. -/
inductive DeviceKind where
  /-- Pictures. -/
  | video
  /-- Sound. -/
  | audio
  deriving DecidableEq, Repr

/-- A capture device. -/
structure Device where
  /-- The name that constraints refer to. -/
  id : String
  /-- The name that is shown. -/
  label : String := ""
  /-- What it captures. -/
  kind : DeviceKind := .video
  /-- Where its frames come from. -/
  url : String
  /-- Where it looks, if that is known. -/
  facing : Option Facing := none
  /-- Its native width, if it cannot scale. -/
  width : Option Nat := none
  /-- Its native height, if it cannot scale. -/
  height : Option Nat := none
  deriving DecidableEq, Repr

namespace Device

/-- A device as JSON. -/
def shape : Json.Shape :=
  .record "DeviceInfo" (.ofList [
    ("device_id", .required, .text),
    ("label", .defaulted, .text),
    ("kind", .defaulted, .choice ["videoinput", "audioinput"]),
    ("url", .required, .text),
    ("facing", .defaulted, .optional Facing.shape),
    ("width", .defaulted, .optional .nat32),
    ("height", .defaulted, .optional .nat32)])

/-- The device that was read. -/
def ofDatum (d : Json.Datum) : Device where
  id := (d.field 0).text?.getD ""
  label := (d.field 1).text?.getD ""
  kind := if (d.field 2).choice? = some 1 then .audio else .video
  url := (d.field 3).text?.getD ""
  facing := Facing.ofDatum? (d.field 4)
  width := (d.field 5).natural?
  height := (d.field 6).natural?

/-- The device is the one asked for and looks where it is asked to. -/
def matchesRequest (d : Device) (c : Constraints) : Bool :=
  (match c.deviceId with
    | some id => d.id == id
    | none => true)
  && (match c.facing with
    | some facing => d.facing == some facing
    | none => true)

end Device

/-- A device together with the size chosen for it. -/
structure ResolvedDevice where
  /-- The device. -/
  device : Device
  /-- The width to capture at. -/
  width : Nat
  /-- The height to capture at. -/
  height : Nat
  deriving DecidableEq, Repr

/-- The devices that can be chosen from. -/
structure Catalog where
  /-- The devices in the order of the configuration. -/
  devices : List Device
  deriving DecidableEq, Repr

namespace Catalog

/-- The video inputs in catalog order. -/
def videoInputs (catalog : Catalog) : List Device :=
  catalog.devices.filter (·.kind == .video)

/-- The size chosen for a device, if the constraints admit one. -/
def chooseSize (c : Constraints) (d : Device) : Except Fault (Option ResolvedDevice) := do
  let width ← c.width.resolve d.width
  let height ← c.height.resolve d.height
  match width, height with
  | some width, some height => return some ⟨d, width, height⟩
  | _, _ => return none

/-- The first of some devices that satisfies every constraint. -/
def firstMatch (c : Constraints) : List Device → Except Fault (Option ResolvedDevice)
  | [] => .ok none
  | d :: ds =>
    if d.matchesRequest c then do
      match ← chooseSize c d with
      | some found => return some found
      | none => firstMatch c ds
    else firstMatch c ds

/-- The first video input that satisfies every constraint. -/
def resolve (catalog : Catalog) (c : Constraints) :
    Except Fault (Except AcquisitionError ResolvedDevice) := do
  match ← firstMatch c catalog.videoInputs with
  | some found => return .ok found
  | none => return .error (.overconstrained c.describe)

end Catalog

end Lookout
