import Lookout.Display.Recorder
import Lookout.Proofs.Display.Repainting
/-!
# The size of a surface

A surface has the size that it was given last, whatever is drawn on it (`Surface.Sized`).  This
holds of recorders, which draw nothing, and of canvases, however they write with a font: those are
painted over, and what is painted over keeps its size (`Surface.sized_of_repaints`).

A render pass leaves the size as it is (`Renderer.size_of_render`) and brings the stream clock and
the readouts up to date from the frame alone (`Renderer.counts_of_render`), so surfaces of the same
size cannot be told apart by them.
-/

namespace Lookout

namespace Surface

/-- A surface has the size that it was given last. -/
structure Sized (σ : Type) [Surface σ] : Prop extends Keeps fun _ : σ => True where
  /-- It takes on any size. -/
  size_resize : ∀ width height (s : σ), size (resize width height s) = (width, height)

/-- Surfaces that are painted over, each in its own way, have the size that they were given last. -/
theorem sized_of_repaints {σ : Type} [Surface σ]
    (h : ∀ s : σ, ∃ own blank, Repaints own blank ∧ own s) : Sized σ where
  drawPicture_kept := by
    intro s _ picture
    obtain ⟨own, blank, hrepaints, hs⟩ := h s
    exact ⟨trivial, (hrepaints.drawPicture_kept hs picture).2⟩
  strokeBox_kept := by
    intro s t _ region style hstroke
    obtain ⟨own, blank, hrepaints, hs⟩ := h s
    exact ⟨trivial, (hrepaints.strokeBox_kept hs hstroke).2⟩
  fillText_kept := by
    intro s t _ text x y style hlabel
    obtain ⟨own, blank, hrepaints, hs⟩ := h s
    exact ⟨trivial, (hrepaints.fillText_kept hs hlabel).2⟩
  size_resize := by
    intro width height s
    obtain ⟨own, blank, hrepaints, hs⟩ := h s
    rw [hrepaints.resize hs]
    by_cases hsame : size s = (width, height)
    · rw [if_pos hsame, hsame]
    · rw [if_neg hsame, hrepaints.size_blank]

/-- Neither side of a surface is zero. -/
def HasPixels {σ : Type} [Surface σ] (s : σ) : Prop := (size s).1 ≠ 0 ∧ (size s).2 ≠ 0

instance {σ : Type} [Surface σ] (s : σ) : Decidable (HasPixels s) :=
  inferInstanceAs (Decidable (_ ∧ _))

/-- What keeps its size keeps its pixels. -/
theorem Kept.hasPixels {σ : Type} [Surface σ] {own : σ → Prop} {s t : σ} (h : Kept own s t)
    (hs : HasPixels s) : HasPixels t := by
  unfold HasPixels
  rw [h.2]
  exact hs

end Surface

/-- A canvas has pixels if its picture is not empty. -/
theorem Canvas.hasPixels_iff {c : Canvas} :
    Surface.HasPixels c ↔ c.picture.isEmpty = false := by
  show c.picture.width ≠ 0 ∧ c.picture.height ≠ 0 ↔ (_ || _) = false
  rw [Bool.or_eq_false_iff, beq_eq_false_iff_ne, beq_eq_false_iff_ne]

/-- Recorders have the size that they were given last. -/
theorem Recorder.sized : Surface.Sized Recorder where
  drawPicture_kept _ _ := ⟨trivial, rfl⟩
  strokeBox_kept := by
    rintro r _ - region style ⟨⟩
    exact ⟨trivial, rfl⟩
  fillText_kept := by
    rintro r _ - text x y style ⟨⟩
    exact ⟨trivial, rfl⟩
  size_resize _ _ _ := rfl

/-- So do canvases. -/
theorem Canvas.sized : Surface.Sized Canvas :=
  Surface.sized_of_repaints fun c => ⟨_, _, Canvas.repaints c.font, rfl⟩

/-- So do canvases that write with a font in any way. -/
theorem Lettered.sized (l : Lettering) : Surface.Sized (Lettered l) :=
  Surface.sized_of_repaints fun s => ⟨_, _, Lettered.repaints l s.canvas.font, rfl⟩

namespace Renderer

variable {σ : Type} [Surface σ]

/-- What a render pass comes to beside the picture: the frame is counted, and the readouts are those
of the frame. -/
theorem counts_of_render {r after : Renderer σ} {report : RenderReport} {frame : Frame Float}
    {overlay : Overlay} (h : r.render frame overlay = .ok (report, after)) :
    (report.fps, after.clock) = r.clock.tick frame.timestamp ∧
      after.readouts = .of report.fps frame.metadata ∧
      report.boxesDrawn = overlay.boxes.length := by
  rw [render_eq_painted] at h
  obtain ⟨surface, -, hafter⟩ := Results.map_eq_ok_iff.mp h
  cases hafter
  exact ⟨rfl, rfl, rfl⟩

/-- A render pass keeps the size. -/
theorem size_of_render (hσ : Surface.Sized σ) {r after : Renderer σ} {report : RenderReport}
    {frame : Frame Float} {overlay : Overlay} (h : r.render frame overlay = .ok (report, after)) :
    Surface.size after.surface = Surface.size r.surface :=
  (painted_kept hσ.toKeeps trivial (of_render h).1).2

end Renderer

end Lookout
