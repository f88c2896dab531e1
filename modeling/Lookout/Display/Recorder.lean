import Lookout.Display.Surface
/-!
# A surface that remembers

Instead of drawing, a recorder keeps a list of what it was asked to draw.
-/

namespace Lookout

/-- Something that a recorder was asked to do. -/
inductive DrawOp where
  /-- Change the size. -/
  | resize (width height : Nat)
  /-- Draw a picture of the given size. -/
  | picture (width height : Nat)
  /-- Draw the outline of a box. -/
  | box (region : Region)
  /-- Write a text. -/
  | text (text : String) (x y : Float32)
  /-- Clear the surface. -/
  | clear

/-- A surface that records. -/
structure Recorder where
  /-- The width. -/
  width : Nat := 0
  /-- The height. -/
  height : Nat := 0
  /-- What it was asked to do, in order. -/
  ops : Array DrawOp := #[]

namespace Recorder

/-- Add to the record. -/
def record (r : Recorder) (op : DrawOp) : Recorder := { r with ops := r.ops.push op }

instance : Surface Recorder where
  size r := (r.width, r.height)
  resize width height r := { r.record (.resize width height) with width, height }
  drawPicture picture r := r.record (.picture picture.width picture.height)
  strokeBox region _ r := .ok (r.record (.box region))
  fillText text x y _ r := .ok (r.record (.text text x y))
  clear r := r.record .clear

/-- The record, and the recorder with an empty one. -/
def take (r : Recorder) : Array DrawOp × Recorder := (r.ops, { r with ops := #[] })

/-- How many pictures were drawn. -/
def pictureCount (r : Recorder) : Nat :=
  r.ops.countP fun
    | .picture _ _ => true
    | _ => false

/-- How often the surface was cleared. -/
def clearCount (r : Recorder) : Nat :=
  r.ops.countP fun
    | .clear => true
    | _ => false

/-- The boxes that were drawn. -/
def boxes (r : Recorder) : List Region :=
  r.ops.toList.filterMap fun
    | .box region => some region
    | _ => none

/-- The texts that were written. -/
def texts (r : Recorder) : List String :=
  r.ops.toList.filterMap fun
    | .text text _ _ => some text
    | _ => none

end Recorder

end Lookout
