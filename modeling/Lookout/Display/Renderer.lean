import Lookout.Display.Surface
import Lookout.Time.StreamClock
/-!
# Rendering

A renderer owns a surface and the readouts beside it.  A render pass draws the picture over the
whole surface, then the boxes that were found, and then brings the readouts up to date.
-/

namespace Lookout

/-- What is drawn over a picture. -/
inductive Overlay where
  /-- What the detection service answered. -/
  | answered (result : DetectionResult)
  /-- Nothing, since there was no answer. -/
  | failed
  /-- Nothing, since nothing was asked. -/
  | plain

/-- The boxes that are drawn; none if the service failed. -/
def Overlay.boxes : Overlay → List Detection
  | .answered result => if result.isError then [] else result.detections
  | .failed => []
  | .plain => []

/-- The texts beside the surface. -/
structure Readouts where
  /-- The frame rate. -/
  fps : Float := 0.0
  /-- The frame rate in words. -/
  fpsText : String := ""
  /-- The record about the last frame. -/
  metadataText : String := ""

namespace Readouts

/-- A frame rate in words: three decimal places, except for zero. -/
def rateText (fps : Float) : String := if fps == 0.0 then "0" else Decimal.fixed 3 fps

/-- The readouts for a frame. -/
def of (fps : Float) (m : Metadata Float) : Readouts := ⟨fps, rateText fps, m.json⟩

end Readouts

/-- The account of one render pass. -/
structure RenderReport where
  /-- How many boxes were drawn. -/
  boxesDrawn : Nat
  /-- The frame rate. -/
  fps : Float

/-- A surface with the readouts beside it. -/
structure Renderer (σ : Type) where
  /-- What is drawn on. -/
  surface : σ
  /-- The look of boxes and labels. -/
  style : OverlayStyle := {}
  /-- The frames shown since the stream began. -/
  clock : StreamClock := {}
  /-- The texts beside the surface. -/
  readouts : Readouts := {}

namespace Renderer

variable {σ : Type} [Surface σ]

/-- Draw a box and its label. -/
def drawBox (style : OverlayStyle) (width height : Nat) (d : Detection) (s : σ) : Except Fault σ := do
  let region := d.region width height
  let s ← Surface.strokeBox region style s
  Surface.fillText d.label region.x region.y style s

/-- Draw boxes in their order. -/
def drawBoxes (style : OverlayStyle) (width height : Nat) : List Detection → σ → Except Fault σ
  | [], s => .ok s
  | d :: ds, s => do drawBoxes style width height ds (← drawBox style width height d s)

/-- Bring the readouts up to date for a frame that was drawn on a surface. -/
def finish (r : Renderer σ) (surface : σ) (frame : Frame Float) : Float × Renderer σ :=
  let (fps, clock) := r.clock.tick frame.timestamp
  (fps, { r with surface, clock, readouts := .of fps frame.metadata })

/-- Render a frame with nothing over it. -/
def renderPlain (r : Renderer σ) (frame : Frame Float) : Float × Renderer σ :=
  r.finish (Surface.drawPicture frame.picture r.surface) frame

/-- Render a frame. -/
def render (r : Renderer σ) (frame : Frame Float) (overlay : Overlay) :
    Except Fault (RenderReport × Renderer σ) := do
  let surface := Surface.drawPicture frame.picture r.surface
  let (width, height) := Surface.size surface
  let surface ← drawBoxes r.style width height overlay.boxes surface
  let (fps, r) := r.finish surface frame
  return (⟨overlay.boxes.length, fps⟩, r)

/-- Begin a new stream: the frame rate starts over. -/
def resetClock (r : Renderer σ) : Renderer σ := { r with clock := .reset }

/-- Give the surface another size. -/
def resize (r : Renderer σ) (width height : Nat) : Renderer σ :=
  { r with surface := Surface.resize width height r.surface }

/-- Show that there is nothing to show. -/
def placeholder (r : Renderer σ) : Renderer σ := { r with surface := Surface.clear r.surface }

end Renderer

end Lookout
