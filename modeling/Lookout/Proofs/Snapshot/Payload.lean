import Lookout.Display.Canvas
import Lookout.Proofs.Picture.PngFile
import Lookout.Snapshot.Basic
/-!
# The service sees what the boxes are drawn over

A frame takes two ways.  The display covers it and fits it to its size (`Canvas.drawPicture`); the
snapshot for the detection service is fitted to the same size without an opacity and written as a
file (`Snapshot.take`).  Both arrive at the same colours (`payload_shows_canvas`), whatever the frame
and the two sizes are, and the exact format hands them over as they are.
-/

namespace Lookout

/-- A canvas with pixels shows a picture fitted to its size, and covered. -/
theorem Canvas.drawPicture_picture {c : Canvas} (h : c.picture.isEmpty = false)
    (picture : Raster Rgb) :
    (c.drawPicture picture).picture =
      (picture.map Rgb.solid).fitted c.picture.width c.picture.height := by
  unfold drawPicture
  rw [if_neg (by simp [h])]

/-- What a canvas with pixels shows has the colours of the picture, fitted to its size. -/
theorem Canvas.drawPicture_colour {c : Canvas} (h : c.picture.isEmpty = false)
    (picture : Raster Rgb) :
    (c.drawPicture picture).picture.map Rgba.colour =
      picture.fitted c.picture.width c.picture.height := by
  rw [drawPicture_picture h, Raster.fitted_solid_colour]

/-- Drawing a picture keeps the size of the canvas. -/
theorem Canvas.drawPicture_size (picture : Raster Rgb) (c : Canvas) :
    (c.drawPicture picture).picture.width = c.picture.width ∧
      (c.drawPicture picture).picture.height = c.picture.height := by
  rcases h : c.picture.isEmpty with _ | _
  · rw [drawPicture_picture h]
    exact ⟨Raster.width_fitted _ _ _, Raster.height_fitted _ _ _⟩
  · unfold drawPicture
    rw [if_pos h]
    exact ⟨rfl, rfl⟩

namespace Snapshot

/-- Where neither the picture nor the size is empty, the picture is fitted to the size and
written. -/
theorem take_eq_write {picture : Raster Rgb} {width height : Nat} (hpicture : picture.isEmpty = false)
    (hwidth : width ≠ 0) (hheight : height ≠ 0) (format : SnapshotFormat) :
    take picture width height format =
      (write (picture.fitted width height) format).map fun octets =>
        ⟨octets, format, width, height⟩ := by
  unfold take
  rw [if_neg (by simp [hpicture, hwidth, hheight])]
  cases write (picture.fitted width height) format <;> rfl

/-- **The service sees what the boxes are drawn over.**  Let a frame and a canvas have pixels, and
let the frame be drawn on the canvas.  The picture that a snapshot of the size of the canvas is
written from has, pixel by pixel, the colours that the canvas then shows; the snapshot is the file of
those colours; and if they fit the exact format, reading that file gives them back. -/
theorem payload_shows_canvas (picture : Raster Rgb) (c : Canvas) (format : SnapshotFormat)
    (hpicture : picture.isEmpty = false) (hcanvas : c.picture.isEmpty = false) :
    let shown := (c.drawPicture picture).picture
    (∀ x y, (picture.fitted c.picture.width c.picture.height).get? x y =
      (shown.get? x y).map Rgba.colour) ∧
    take picture c.picture.width c.picture.height format =
      (write (shown.map Rgba.colour) format).map (fun octets =>
        ⟨octets, format, c.picture.width, c.picture.height⟩) ∧
    (Png.Fits (shown.map Rgba.colour) →
      ∃ s, take picture c.picture.width c.picture.height .png = .ok s ∧
        Picture.decode s.octets = .ok (shown.map Rgba.colour)) := by
  intro shown
  have hcolours : shown.map Rgba.colour = picture.fitted c.picture.width c.picture.height :=
    Canvas.drawPicture_colour hcanvas picture
  have hsides : c.picture.width ≠ 0 ∧ c.picture.height ≠ 0 := by
    simpa [Raster.isEmpty] using hcanvas
  have htake : ∀ format, take picture c.picture.width c.picture.height format =
      (write (shown.map Rgba.colour) format).map fun octets =>
        ⟨octets, format, c.picture.width, c.picture.height⟩ := by
    intro format
    rw [hcolours]
    exact take_eq_write hpicture hsides.1 hsides.2 format
  refine ⟨?_, htake format, ?_⟩
  · intro x y
    rw [← hcolours]
    exact Raster.get?_map Rgba.colour shown x y
  · intro hfits
    refine ⟨⟨Png.encode (shown.map Rgba.colour), .png, _, _⟩, htake .png, ?_⟩
    exact Png.decode_encode hfits

/-- Two pixels that are sent, and shown, as one. -/
theorem payload_of_two_pixels :
    let picture := Raster.build 2 1 fun x _ => (⟨if x = 0 then 200 else 100, 7, 9⟩ : Rgb)
    let shown := ((Canvas.blank 1 1).drawPicture picture).picture
    picture.isEmpty = false ∧ (Canvas.blank 1 1).picture.isEmpty = false ∧
      (picture.fitted 1 1).get? 0 0 = (shown.get? 0 0).map Rgba.colour ∧
      ∃ s, take picture 1 1 .png = .ok s ∧ Picture.decode s.octets = .ok (shown.map Rgba.colour) := by
  intro picture shown
  obtain ⟨hpixels, _, hfile⟩ := payload_shows_canvas picture (Canvas.blank 1 1) .png rfl rfl
  obtain ⟨hwidth, hheight⟩ := Canvas.drawPicture_size picture (Canvas.blank 1 1)
  have hfits : Png.Fits (shown.map Rgba.colour) := by
    refine Png.fits_of_sides_le ?_ ?_
    · rw [Raster.width_map, hwidth]
      decide
    · rw [Raster.height_map, hheight]
      decide
  exact ⟨rfl, rfl, hpixels 0 0, hfile hfits⟩

end Snapshot

end Lookout
