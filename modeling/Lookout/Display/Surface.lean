import Lookout.Capture.Frame
import Lookout.Display.Region
import Lookout.Fault
/-!
# Surfaces

A surface is what is drawn on.  Drawing a picture covers all of it, which is how what was drawn
over the picture before it disappears.
-/

namespace Lookout

/-- The look of what is drawn over a picture. -/
structure OverlayStyle where
  /-- The colour of boxes. -/
  stroke : Rgb := ⟨255, 255, 0⟩
  /-- The width of lines in pixels. -/
  lineWidth : Nat := 2
  /-- The colour of labels. -/
  text : Rgb := ⟨0, 0, 255⟩
  /-- The size of letters in pixels. -/
  fontSize : Float32 := 20.0

/-- What can be done with a surface. -/
class Surface (σ : Type) where
  /-- Width and height. -/
  size : σ → Nat × Nat
  /-- Give the surface another size. -/
  resize : Nat → Nat → σ → σ
  /-- Draw a picture over the whole surface. -/
  drawPicture : Raster Rgb → σ → σ
  /-- Draw the outline of a box. -/
  strokeBox : Region → OverlayStyle → σ → Except Fault σ
  /-- Write a text on a line through the given point. -/
  fillText : String → Float32 → Float32 → OverlayStyle → σ → Except Fault σ
  /-- Leave nothing but the transparent background. -/
  clear : σ → σ

end Lookout
