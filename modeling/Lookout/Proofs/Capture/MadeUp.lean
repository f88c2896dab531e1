import Lookout.Capture.Source.Synthetic
import Lookout.Proofs.Octets.Standing
import Lookout.Proofs.Picture.Resize
/-!
# Pictures that are made up

The synthetic source writes a picture as octets, one pixel after the other, and a picture is made of
them if they are as many as it takes.  They always are, and what is made of them has in each column
and row the pixel that belongs there (`ofOctets?_nextOctets`).
-/

namespace Lookout

namespace Octets

/-- An octet is appended behind the others. -/
theorem getElem?_push (data : ByteArray) (octet : UInt8) (i : Nat) :
    (data.push octet)[i]? = if i = data.size then some octet else data[i]? := by
  rw [getElem?_data, getElem?_data, ByteArray.data_push, Array.getElem?_push]
  rfl

end Octets

/-- A raster is made of the pixels in its columns and rows. -/
theorem Raster.build_congr {π : Type} {width height : Nat} {f g : Nat → Nat → π}
    (h : ∀ x < width, ∀ y < height, f x y = g x y) :
    build width height f = build width height g := by
  unfold build
  simp only [Raster.mk.injEq, true_and]
  refine congrArg Array.ofFn (funext fun i => h _ (Nat.mod_lt _ ?_) _ (Nat.div_lt_of_lt_mul i.isLt))
  exact Nat.pos_of_mul_pos_right (Nat.zero_lt_of_lt i.isLt)

/-- The pixel that a raster was made of in a column and a row. -/
theorem Raster.get?_build {π : Type} {width height x y : Nat} (hx : x < width) (hy : y < height)
    (f : Nat → Nat → π) : (build width height f).get? x y = some (f x y) := by
  have hcolumn : (y * width + x) % width = x := by
    rw [Nat.mul_comm, Nat.mul_add_mod, Nat.mod_eq_of_lt hx]
  have hrow : (y * width + x) / width = y := by
    rw [Nat.mul_comm, Nat.mul_add_div (Nat.zero_lt_of_lt hx), Nat.div_eq_of_lt hx, Nat.add_zero]
  unfold get? build
  rw [if_pos hx, Array.getElem?_ofFn, dif_pos (place_lt hx hy), hcolumn, hrow]

namespace SyntheticSource

variable {τ : Type} (s : SyntheticSource τ)

/-- The picture of the pixels of the next frame. -/
def nextPicture : Raster Rgb := Raster.build s.settings.width s.settings.height s.pixel

/-- The octets of the first pixels of the next frame. -/
def octetsOf (count : Nat) (room : ByteArray) : ByteArray :=
  count.fold (fun i _ octets =>
    let p := s.pixel (i % s.settings.width) (i / s.settings.width)
    ((octets.push p.red).push p.green).push p.blue) room

theorem octetsOf_succ (count : Nat) (room : ByteArray) :
    s.octetsOf (count + 1) room =
      let p := s.pixel (count % s.settings.width) (count / s.settings.width)
      (((s.octetsOf count room).push p.red).push p.green).push p.blue :=
  Nat.fold_succ count _ room

/-- Every pixel has three octets. -/
theorem size_octetsOf {room : ByteArray} (hroom : room.size = 0) (count : Nat) :
    (s.octetsOf count room).size = count * 3 := by
  induction count with
  | zero => exact hroom
  | succ n ih =>
    rw [octetsOf_succ]
    simp only [ByteArray.size_push, ih]
    omega

/-- The octets of a pixel come where those before it end. -/
theorem getElem?_octetsOf {room : ByteArray} (hroom : room.size = 0) {count i k : Nat}
    (hi : i < count) (hk : k < 3) :
    (s.octetsOf count room)[i * 3 + k]? =
      some (Pixel.channel (s.pixel (i % s.settings.width) (i / s.settings.width)) k) := by
  induction count with
  | zero => exact absurd hi (Nat.not_lt_zero i)
  | succ n ih =>
    rw [octetsOf_succ]
    simp only [Octets.getElem?_push, ByteArray.size_push, s.size_octetsOf hroom n]
    by_cases hlast : i = n
    · subst hlast
      match k, hk with
      | 0, _ => rw [if_neg (by omega), if_neg (by omega), if_pos (by omega)]; rfl
      | 1, _ => rw [if_neg (by omega), if_pos (by omega)]; rfl
      | 2, _ => rw [if_pos (by omega)]; rfl
    · rw [if_neg (by omega), if_neg (by omega), if_neg (by omega)]
      exact ih (by omega)

/-- The pixel in a column and a row is made of its octets. -/
theorem ofChannels_octetsOf {room : ByteArray} (hroom : room.size = 0) {x y : Nat}
    (hx : x < s.settings.width) (hy : y < s.settings.height) :
    (Pixel.ofChannels fun k => Octets.octetAt
      (s.octetsOf (s.settings.width * s.settings.height) room)
        ((y * s.settings.width + x) * 3 + k) : Rgb) = s.pixel x y := by
  have hrow : (y * s.settings.width + x) / s.settings.width = y := by
    rw [Nat.mul_comm, Nat.mul_add_div (Nat.zero_lt_of_lt hx), Nat.div_eq_of_lt hx, Nat.add_zero]
  have hcolumn : (y * s.settings.width + x) % s.settings.width = x := by
    rw [Nat.mul_comm, Nat.mul_add_mod, Nat.mod_eq_of_lt hx]
  have hoctet {k : Nat} (hk : k < 3) :=
    Octets.octetAt_of_getElem? (s.getElem?_octetsOf hroom (Raster.place_lt hx hy) hk)
  rw [hrow, hcolumn] at hoctet
  have hpixel := congr (congr (congrArg Rgb.mk (hoctet (k := 0) (by decide)))
    (hoctet (k := 1) (by decide))) (hoctet (k := 2) (by decide))
  exact hpixel

/-- **There are always as many octets as the picture takes**, and they are those of its pixels. -/
theorem ofOctets?_nextOctets :
    Raster.ofOctets? s.settings.width s.settings.height s.nextOctets = some s.nextPicture := by
  have hroom : (ByteArray.emptyWithCapacity
    (s.settings.width * s.settings.height * 3)).size = 0 := rfl
  have hsize : s.settings.width * s.settings.height * Pixel.channels Rgb ≤ s.nextOctets.size :=
    Nat.le_of_eq (s.size_octetsOf hroom _).symm
  unfold Raster.ofOctets?
  rw [if_pos hsize]
  exact congrArg some (Raster.build_congr fun x hx y hy => s.ofChannels_octetsOf hroom hx hy)

end SyntheticSource

end Lookout
