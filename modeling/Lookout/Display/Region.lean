import Lookout.Detection.Result
/-!
# Where things are on a display

Boxes found by the service are relative to the frame; on a display they are measured in its pixels.
The sizes that a picture takes up in the layout of a page are computed here as well.
-/

namespace Lookout

/-- A box in the pixels of a surface. -/
structure Region where
  /-- The left edge. -/
  x : Float32
  /-- The top edge. -/
  y : Float32
  /-- The width. -/
  width : Float32
  /-- The height. -/
  height : Float32

namespace Region

/-- The right edge. -/
def right (r : Region) : Float32 := r.x + r.width

/-- The bottom edge. -/
def bottom (r : Region) : Float32 := r.y + r.height

end Region

/-- The box on a surface of the given size. -/
def Detection.region (d : Detection) (width height : Nat) : Region :=
  let w := Float32.ofNat width
  let h := Float32.ofNat height
  ⟨d.x * w, d.y * h, d.width * w, d.height * h⟩

/-- The size of a picture of 16 to 9 in a container, with a margin of a twentieth: as wide as the
margin allows, unless that is too high.  It is stated for any numbers; displays use single
precision. -/
def fitPicture {α : Type} [Mul α] [Div α] [LT α] [DecidableLT α] [OfScientific α]
    (width height : α) : α × α :=
  let share : α := 0.95
  let aspect : α := 9.0 / 16.0
  let w := width * share
  let h := w * aspect
  if height < h then
    let h := height * share
    (h / aspect, h)
  else (w, h)

end Lookout
