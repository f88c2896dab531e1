import Lookout.Picture.Resample
/-!
# Resizing, channel by channel

A picture is resized as it is for the detection service, and with an opacity beside its colours for
the display.  The weights of a place depend on the sizes alone and every channel is summed on its
own, so the colours do not notice the opacity: covering a picture and resizing it gives the same
colours as resizing it (`fitted_solid_colour`).
-/

namespace Lookout

namespace Raster

variable {π ρ σ : Type}

/-! ### Rasters made from others -/

/-- Rasters with the same sides and the same pixels are the same. -/
@[ext] theorem ext {r s : Raster π} (hwidth : r.width = s.width) (hheight : r.height = s.height)
    (hpixels : r.pixels = s.pixels) : r = s := by
  cases r
  cases s
  cases hwidth
  cases hheight
  cases hpixels
  rfl

@[simp] theorem width_map (f : π → ρ) (r : Raster π) : (r.map f).width = r.width := rfl

@[simp] theorem height_map (f : π → ρ) (r : Raster π) : (r.map f).height = r.height := rfl

@[simp] theorem pixels_map (f : π → ρ) (r : Raster π) : (r.map f).pixels = r.pixels.map f := rfl

@[simp] theorem size_map (f : π → ρ) (r : Raster π) : (r.map f).size = r.size := rfl

@[simp] theorem isEmpty_map (f : π → ρ) (r : Raster π) : (r.map f).isEmpty = r.isEmpty := rfl

/-- A changed pixel is where the pixel was. -/
theorem get?_map (f : π → ρ) (r : Raster π) (x y : Nat) :
    (r.map f).get? x y = (r.get? x y).map f := by
  unfold get?
  rw [width_map, pixels_map, Array.getElem?_map]
  split <;> rfl

/-- Every column and row has its place among the pixels. -/
theorem place_lt {width height x y : Nat} (hx : x < width) (hy : y < height) :
    y * width + x < width * height :=
  calc y * width + x < y * width + width := Nat.add_lt_add_left hx _
    _ = (y + 1) * width := (Nat.succ_mul y width).symm
    _ ≤ height * width := Nat.mul_le_mul_right width hy
    _ = width * height := Nat.mul_comm height width

/-- A raster is made from the pixels that are in it. -/
theorem build_eq {r : Raster π} {f : Nat → Nat → π}
    (h : ∀ x < r.width, ∀ y < r.height, r.pixels[y * r.width + x]? = some (f x y)) :
    build r.width r.height f = r := by
  ext1
  · rfl
  · rfl
  · refine Array.ext (Array.size_ofFn.trans r.size_eq.symm) fun i hbuilt hi => ?_
    rw [r.size_eq] at hi
    have hwidth : 0 < r.width := Nat.pos_of_mul_pos_right (Nat.zero_lt_of_lt hi)
    have hpixel := h (i % r.width) (Nat.mod_lt i hwidth) (i / r.width)
      (Nat.div_lt_of_lt_mul hi)
    rw [Nat.div_add_mod'] at hpixel
    exact (Array.getElem_ofFn _).trans (Array.getElem_eq_iff.mpr hpixel).symm

/-- Changing every pixel twice is changing it once. -/
theorem map_map (g : ρ → σ) (f : π → ρ) (r : Raster π) : (r.map f).map g = r.map (g ∘ f) := by
  ext1
  · rfl
  · rfl
  · exact Array.map_map

/-- Changing no pixel changes nothing. -/
theorem map_id (r : Raster π) : r.map id = r := by
  ext1
  · rfl
  · rfl
  · exact Array.map_id r.pixels

/-- The pixels of a raster of one colour change alike. -/
theorem map_fill (f : π → ρ) (width height : Nat) (p : π) :
    (fill width height p).map f = fill width height (f p) := by
  ext1
  · rfl
  · rfl
  · exact Array.map_replicate

/-- The pixels of a raster change where they are made. -/
theorem map_build (g : π → ρ) (width height : Nat) (f : Nat → Nat → π) :
    (build width height f).map g = build width height fun x y => g (f x y) := by
  ext1
  · rfl
  · rfl
  · exact Array.map_ofFn

/-- Covering a picture keeps its colours. -/
@[simp] theorem map_solid_colour (r : Raster Rgb) : (r.map Rgb.solid).map Rgba.colour = r := by
  rw [map_map]
  exact map_id r

/-! ### The colours of a covered picture -/

/-- Covering a colour keeps its three channels. -/
theorem channel_solid (c : Rgb) {k : Nat} (hk : k < 3) :
    Pixel.channel c.solid k = Pixel.channel c k := by
  match k with
  | 0 => rfl
  | 1 => rfl
  | 2 => rfl

/-- The colour of a pixel made from four channels is made from the first three. -/
theorem colour_ofChannels (f : Nat → UInt8) :
    (Pixel.ofChannels f : Rgba).colour = Pixel.ofChannels f := rfl

/-- Three channels make a colour, whatever the others are. -/
theorem ofChannels_congr {f g : Nat → UInt8} (h : ∀ k < 3, f k = g k) :
    (Pixel.ofChannels f : Rgb) = Pixel.ofChannels g := by
  show (⟨f 0, f 1, f 2⟩ : Rgb) = ⟨g 0, g 1, g 2⟩
  rw [h 0 (by decide), h 1 (by decide), h 2 (by decide)]

/-- A place of a covered picture has the channels of the same place of the picture; places beyond
the pixels are black in both. -/
theorem channel_getD_solid (r : Raster Rgb) (i : Nat) {k : Nat} (hk : k < 3) :
    Pixel.channel ((r.map Rgb.solid).pixels[i]?.getD default) k =
      Pixel.channel (r.pixels[i]?.getD default) k := by
  rw [pixels_map, Array.getElem?_map]
  cases r.pixels[i]? with
  | some c => exact channel_solid c hk
  | none =>
    match k with
    | 0 => rfl
    | 1 => rfl
    | 2 => rfl

/-- The mean of a channel over a window is the same in a covered picture. -/
theorem resampled_solid (r : Raster Rgb) (column row : Resample.Window) {k : Nat} (hk : k < 3) :
    (r.map Rgb.solid).resampled column row k = r.resampled column row k := by
  unfold resampled
  rw [width_map]
  simp only [channel_getD_solid r _ hk]

/-- The colours of a covered picture in another size are those of the picture in that size. -/
theorem resize_solid_colour (r : Raster Rgb) (width height : Nat) :
    ((r.map Rgb.solid).resize width height).map Rgba.colour = r.resize width height := by
  unfold resize
  rw [isEmpty_map]
  split
  · rw [map_fill, colour_ofChannels]
  · rw [map_build]
    refine congrArg (build width height) (funext fun x => funext fun y => ?_)
    rw [colour_ofChannels]
    exact ofChannels_congr fun k hk => resampled_solid r _ _ hk

/-- **Resizing does not notice the opacity**: the colours of a covered picture that was fitted to a
size are the colours of the picture fitted to it, whatever the sizes, and whether or not the picture
has the size already. -/
theorem fitted_solid_colour (r : Raster Rgb) (width height : Nat) :
    ((r.map Rgb.solid).fitted width height).map Rgba.colour = r.fitted width height := by
  unfold fitted
  rw [size_map]
  split
  · exact map_solid_colour r
  · exact resize_solid_colour r width height

@[simp] theorem width_fitted [Pixel π] [Inhabited π] (r : Raster π) (width height : Nat) :
    (r.fitted width height).width = width := by
  unfold fitted
  split
  case isTrue h => exact congrArg Prod.fst h
  case isFalse =>
    unfold resize
    split <;> rfl

@[simp] theorem height_fitted [Pixel π] [Inhabited π] (r : Raster π) (width height : Nat) :
    (r.fitted width height).height = height := by
  unfold fitted
  split
  case isTrue h => exact congrArg Prod.snd h
  case isFalse =>
    unfold resize
    split <;> rfl

end Raster

end Lookout
