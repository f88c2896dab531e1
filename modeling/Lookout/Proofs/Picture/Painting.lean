import Lookout.Proofs.Picture.Resize
/-!
# What painting a box changes

A box is painted row by row and run by run.  Of the pixels of a raster it sets those that the box
covers, and it leaves all others as they are (`Raster.get?_paint`): a box that reaches beyond the
raster is clipped to it.
-/

namespace Lookout

/-- The box covers the pixel in column `x` and row `y`. -/
def Box.Covers (b : Box) (x y : Int) : Prop :=
  (b.left ≤ x ∧ x ≤ b.right) ∧ b.top ≤ y ∧ y ≤ b.bottom

instance (b : Box) (x y : Int) : Decidable (b.Covers x y) :=
  inferInstanceAs (Decidable ((b.left ≤ x ∧ x ≤ b.right) ∧ b.top ≤ y ∧ y ≤ b.bottom))

namespace Raster

variable {π : Type}

@[simp] theorem width_paint (r : Raster π) (b : Box) (p : π) : (r.paint b p).width = r.width := rfl

@[simp] theorem height_paint (r : Raster π) (b : Box) (p : π) :
    (r.paint b p).height = r.height := rfl

/-! ### Runs -/

/-- A run sets its positions and no others. -/
theorem getElem?_paintRun (p : π) {start count i : Nat} {pixels : Array π} (hi : i < pixels.size) :
    (paintRun p start count pixels)[i]? =
      if start ≤ i ∧ i < start + count then some p else pixels[i]? := by
  induction count generalizing pixels with
  | zero => rw [paintRun, if_neg (by omega)]
  | succ n ih =>
    rw [paintRun, ih (by simpa using hi)]
    by_cases hlast : start + n = i
    · subst hlast
      rw [if_neg (by omega), if_pos (by omega), Array.getElem?_setIfInBounds_self_of_lt hi]
    · rw [Array.getElem?_setIfInBounds_ne hlast]
      simp only [show (start ≤ i ∧ i < start + (n + 1)) ↔ (start ≤ i ∧ i < start + n) by omega]

/-- Positions in different rows differ. -/
theorem position_mem_run_iff {width left count row x y : Nat} (hx : x < width)
    (hrun : ∀ k < count, left + k < width) :
    (row * width + left ≤ y * width + x ∧ y * width + x < row * width + left + count) ↔
      y = row ∧ left ≤ x ∧ x < left + count := by
  constructor
  · rintro ⟨hfirst, hlast⟩
    have hlastColumn := hrun (y * width + x - (row * width + left)) (by omega)
    have hsame : y = row := by
      rcases Nat.lt_trichotomy y row with hlt | heq | hgt
      · have hstep := Nat.mul_le_mul_right width hlt
        rw [Nat.succ_mul] at hstep
        omega
      · exact heq
      · have hstep := Nat.mul_le_mul_right width hgt
        rw [Nat.succ_mul] at hstep
        omega
    subst hsame
    omega
  · rintro ⟨rfl, hfirst, hlast⟩
    omega

/-- Rows of runs set the positions of a rectangle and no others. -/
theorem getElem?_paintRows (p : π) {width left count top rows x y : Nat} {pixels : Array π}
    (hx : x < width) (hrun : ∀ k < count, left + k < width) (hy : y * width + x < pixels.size) :
    (paintRows p width left count top rows pixels)[y * width + x]? =
      if (left ≤ x ∧ x < left + count) ∧ top ≤ y ∧ y < top + rows then some p
      else pixels[y * width + x]? := by
  induction rows generalizing pixels with
  | zero => rw [paintRows, if_neg (by omega)]
  | succ n ih =>
    rw [paintRows, ih (by simpa using hy), getElem?_paintRun p hy]
    simp only [position_mem_run_iff hx hrun]
    by_cases hlast : y = top + n
    · subst hlast
      simp only [true_and]
      by_cases hcolumn : left ≤ x ∧ x < left + count
      · rw [if_neg (by omega), if_pos hcolumn, if_pos (by omega)]
      · rw [if_neg (by omega), if_neg (by omega), if_neg (by omega)]
    · rw [if_neg (c := y = top + n ∧ left ≤ x ∧ x < left + count) (by omega)]
      simp only [show top ≤ y ∧ y < top + (n + 1) ↔ top ≤ y ∧ y < top + n by omega]

/-! ### Boxes -/

/-- The numbers that are counted are those from the first to the last, below the bound. -/
theorem mem_clip_iff {first : Int} {last : Int} {bound n : Nat} (hn : n < bound) :
    (first.toNat ≤ n ∧ n < first.toNat + clipCount first.toNat last bound) ↔
      first ≤ n ∧ n ≤ last := by
  unfold clipCount
  omega

/-- **Painting a box sets the pixels of the raster that the box covers**, and no others. -/
theorem get?_paint (r : Raster π) (b : Box) (p : π) {x y : Nat} (hx : x < r.width)
    (hy : y < r.height) :
    (r.paint b p).get? x y = if b.Covers x y then some p else r.get? x y := by
  have hrun : ∀ k < clipCount b.left.toNat b.right r.width, b.left.toNat + k < r.width := by
    intro k hk
    unfold clipCount at hk
    omega
  have hposition : y * r.width + x < r.pixels.size := r.size_eq ▸ place_lt hx hy
  unfold get? paint
  dsimp only
  rw [if_pos hx, if_pos hx, getElem?_paintRows p hx hrun hposition]
  simp only [mem_clip_iff hx, mem_clip_iff hy]
  rfl

end Raster

end Lookout
