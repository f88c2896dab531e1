import Lookout.Fault
import Lookout.Json.Shape
import Lookout.Text.Reading
import Lookout.Text.Lowercase
/-!
# What a capture has to satisfy

Constraints ask for a size between bounds, and for an exact facing and an exact device where those
are set.  They come from the configuration and are adjusted by the controls.
-/

namespace Lookout

/-- The acceptable values of one side of a frame. -/
structure SizeRange where
  /-- The least acceptable value. -/
  min : Nat
  /-- The preferred value. -/
  ideal : Nat
  /-- The greatest acceptable value. -/
  max : Nat
  deriving DecidableEq, Repr

namespace SizeRange

/-- The preferred value, moved into the bounds. -/
def clamped (r : SizeRange) : Except Fault Nat :=
  if r.max < r.min then .error .rangeInverted
  else .ok (if r.ideal < r.min then r.min else if r.max < r.ideal then r.max else r.ideal)

/-- The value for a device: its native one if that lies within the bounds, `none` if it does not,
and the preferred one for a device without a native value. -/
def resolve (r : SizeRange) (native : Option Nat) : Except Fault (Option Nat) :=
  match native with
  | some size => .ok (if size < r.min ∨ r.max < size then none else some size)
  | none => r.clamped.map some

/-- A range as JSON. -/
def shape : Json.Shape :=
  .record "Range" (.ofList [
    ("min", .required, .nat32), ("ideal", .required, .nat32), ("max", .required, .nat32)])

/-- The range that was read. -/
def ofDatum (d : Json.Datum) : SizeRange :=
  ⟨(d.field 0).natural?.getD 0, (d.field 1).natural?.getD 0, (d.field 2).natural?.getD 0⟩

end SizeRange

/-- Where a camera looks. -/
inductive Facing where
  /-- At the person who holds the device. -/
  | user
  /-- Away from that person. -/
  | environment
  deriving DecidableEq, Repr

namespace Facing

/-- The name of a facing in a configuration. -/
def name : Facing → String
  | .user => "user"
  | .environment => "environment"

/-- The name of a facing in a message. -/
def title : Facing → String
  | .user => "User"
  | .environment => "Environment"

/-- The message for a text that names no facing. -/
def unknownMessage (text : String) : String :=
  s!"unknown facing mode '{text}'; expected user or environment"

/-- Read the name of a facing or one of its other names, without regard to case and to blanks
around it. -/
def parse (text : String) : Except String Facing :=
  let name := Text.lowercase (Text.trim text)
  if ["user", "front"].contains name then .ok .user
  else if ["environment", "rear", "back"].contains name then .ok .environment
  else .error (unknownMessage name)

/-- A facing as JSON. -/
def shape : Json.Shape := .choice ["user", "environment"]

/-- The facing that was read. -/
def ofDatum? (d : Json.Datum) : Option Facing :=
  d.choice?.map fun i => if i = 0 then .user else .environment

end Facing

/-- A request for a capture. -/
structure Constraints where
  /-- The acceptable widths. -/
  width : SizeRange := ⟨1280, 1920, 2560⟩
  /-- The acceptable heights. -/
  height : SizeRange := ⟨720, 1080, 1440⟩
  /-- The exact facing, if one is asked for. -/
  facing : Option Facing := none
  /-- The exact device, if one is asked for. -/
  deviceId : Option String := none
  deriving DecidableEq, Repr

namespace Constraints

/-- Constraints as JSON; anything left out keeps its default. -/
def shape : Json.Shape :=
  .record "Constraints" (.ofList [
    ("width", .defaulted, SizeRange.shape),
    ("height", .defaulted, SizeRange.shape),
    ("facing_mode", .defaulted, .optional Facing.shape),
    ("device_id", .defaulted, .optional .text)])

/-- The constraints that were read. -/
def ofDatum (d : Json.Datum) : Constraints where
  width := ((d.field 0).present?.map SizeRange.ofDatum).getD ({} : Constraints).width
  height := ((d.field 1).present?.map SizeRange.ofDatum).getD ({} : Constraints).height
  facing := Facing.ofDatum? (d.field 2)
  deviceId := (d.field 3).text?

/-- Read constraints. -/
def read (text : String) : Except Json.Error Constraints :=
  (Json.read shape text).map ofDatum

/-- The same request for another device. -/
def withDevice (c : Constraints) (deviceId : Option String) : Constraints :=
  { c with deviceId := deviceId }

/-- The same request with another facing. -/
def withFacing (c : Constraints) (facing : Option Facing) : Constraints :=
  { c with facing := facing }

/-- The request in words. -/
def describe (c : Constraints) : String :=
  let size := s!"width {c.width.min}..{c.width.max}, height {c.height.min}..{c.height.max}"
  let facing := match c.facing with
    | some f => [s!"facing {f.title}"]
    | none => []
  let device := match c.deviceId with
    | some id => [s!"device '{id}'"]
    | none => []
  ", ".intercalate (size :: facing ++ device)

end Constraints

/-- The position of the facing control. -/
inductive FacingPreset where
  /-- Any facing. -/
  | any
  /-- The camera that faces the user. -/
  | front
  /-- The camera that faces the environment. -/
  | rear
  deriving DecidableEq, Repr

namespace FacingPreset

/-- The facing that a position of the control asks for. -/
def facing : FacingPreset → Option Facing
  | .any => none
  | .front => some .user
  | .rear => some .environment

/-- The constraints that follow from the control; the device they ask for is kept. -/
def apply (p : FacingPreset) (base : Constraints) : Constraints := base.withFacing p.facing

end FacingPreset

end Lookout
