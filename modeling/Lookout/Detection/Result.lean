import Lookout.Json.Shape
/-!
# What a detection service answers

An answer is a list of boxes, or a failure code, or both.  Coordinates are relative to the frame,
with the origin in its top left corner.
-/

namespace Lookout

/-- One box. -/
structure Detection where
  /-- The number of the class of thing that was found. -/
  category : Int
  /-- The left edge. -/
  x : Float32
  /-- The top edge. -/
  y : Float32
  /-- The width. -/
  width : Float32
  /-- The height. -/
  height : Float32
  /-- How sure the service is; zero if it does not say. -/
  confidence : Float32 := 0.0

namespace Detection

/-- The text that is drawn next to the box. -/
def label (d : Detection) : String := toString d.category

/-- A box as JSON. -/
def shape : Json.Shape :=
  .record "Detection" (.ofList [
    ("class", .required, .int64),
    ("x", .required, .real32),
    ("y", .required, .real32),
    ("width", .required, .real32),
    ("height", .required, .real32),
    ("confidence", .defaulted, .real32)])

/-- The box that was read. -/
def ofDatum (d : Json.Datum) : Detection where
  category := (d.field 0).integer?.getD 0
  x := (d.field 1).real?.getD 0.0
  y := (d.field 2).real?.getD 0.0
  width := (d.field 3).real?.getD 0.0
  height := (d.field 4).real?.getD 0.0
  confidence := (d.field 5).real?.getD 0.0

end Detection

/-- The answer to one request. -/
structure DetectionResult where
  /-- The failure code, if the service sent one; zero stands for success. -/
  errorCode : Option Int := none
  /-- The boxes in the order of the answer. -/
  detections : List Detection := []

namespace DetectionResult

/-- The service says that it failed. -/
def isError (r : DetectionResult) : Bool :=
  match r.errorCode with
  | some code => code != 0
  | none => false

/-- An answer as JSON. -/
def shape : Json.Shape :=
  .record "DetectionResult" (.ofList [
    ("error_code", .defaulted, .optional .int64),
    ("detections", .defaulted, .sequence Detection.shape)])

/-- The answer that was read. -/
def ofDatum (d : Json.Datum) : DetectionResult where
  errorCode := (d.field 0).integer?
  detections := ((d.field 1).list?.getD []).map Detection.ofDatum

/-- Read an answer. -/
def read (text : String) : Except Json.Error DetectionResult :=
  (Json.read shape text).map ofDatum

end DetectionResult

end Lookout
