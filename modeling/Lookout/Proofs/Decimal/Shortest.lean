import Mathlib.Tactic
import Lookout.Decimal.Digits
/-!
# Shortest decimals

The decimal that is written for a binary number is one that is read back as it (`holds_iff`): no
farther from the number than half a unit of its last place.  Seventeen digits are always enough for
such a decimal (`isSome_withDigits_seventeen`), because seventeen digits are finer than half of such
a unit.  So the decimal has no more than seventeen digits, or is one followed by seventeen zeros,
and is not zero (`shortest_spec`).
-/

namespace Lookout.Decimal

/-! ### How many digits a number has -/

theorem lt_pow_digitCount (n : Nat) : n < 10 ^ digitCount n :=
  (Nat.length_toDigits_le_iff (by decide) Nat.length_toDigits_pos).mp (Nat.le_refl _)

theorem pow_digitCount_le {n : Nat} (hn : 0 < n) : 10 ^ (digitCount n - 1) ≤ n := by
  by_cases hone : digitCount n - 1 = 0
  · rw [hone]
    exact hn
  · have hfewer : ¬(Nat.toDigits 10 n).length ≤ digitCount n - 1 := by
      show ¬digitCount n ≤ digitCount n - 1
      omega
    rw [Nat.length_toDigits_le_iff (by decide) (by omega)] at hfewer
    exact Nat.le_of_not_lt hfewer

/-- A power of two, as the quotient that it is taken for. -/
theorem quotient_eq_zpow (e : Int) :
    ((if 0 ≤ e then Nat.pow 2 e.toNat else 1 : Nat) : ℚ) /
      (if 0 ≤ e then 1 else Nat.pow 2 (-e).toNat : Nat) = 2 ^ e := by
  split
  · rename_i h
    obtain ⟨n, rfl⟩ := Int.eq_ofNat_of_zero_le h
    simp
  · rename_i h
    obtain ⟨n, hn⟩ := Int.eq_ofNat_of_zero_le (Int.le_of_lt (Int.neg_pos.mpr (Int.not_le.mp h)))
    obtain rfl : e = -(n : Int) := by omega
    simp

/-- Quotients are compared by their products. -/
theorem le_quotient_iff {low up down num den : Nat} (hdown : 0 < down) (hden : 0 < den) :
    low * up * den ≤ num * down ↔ (low * (up / down) : ℚ) ≤ num / den := by
  have hdown' : (0 : ℚ) < down := Nat.cast_pos.mpr hdown
  have hden' : (0 : ℚ) < den := Nat.cast_pos.mpr hden
  rw [← mul_div_assoc, div_le_div_iff₀ hdown' hden']
  exact_mod_cast Iff.rfl

theorem quotient_le_iff {high up down num den : Nat} (hdown : 0 < down) (hden : 0 < den) :
    num * down ≤ high * up * den ↔ (num / den : ℚ) ≤ high * (up / down) := by
  have hdown' : (0 : ℚ) < down := Nat.cast_pos.mpr hdown
  have hden' : (0 : ℚ) < den := Nat.cast_pos.mpr hden
  rw [← mul_div_assoc, div_le_div_iff₀ hden' hdown']
  exact_mod_cast Iff.rfl

namespace Binary

variable {b : Binary}

/-- The magnitude. -/
def value (b : Binary) : ℚ := b.mantissa * 2 ^ b.exponent

theorem denominator_pos (b : Binary) : 0 < b.denominator := by
  unfold denominator
  split
  · decide
  · exact Nat.pow_pos (by decide)

theorem numerator_div_denominator (b : Binary) :
    (b.numerator : ℚ) / b.denominator = b.value := by
  unfold value
  rw [← quotient_eq_zpow]
  unfold numerator denominator
  split
  · simp
  · simp [div_eq_mul_inv]

/-! ### Decimals that are read back -/

/-- How far down numbers are read as this one, in quarters of a unit of the last place: half as far
as usual where the numbers below are twice as dense. -/
def below (b : Binary) : Nat := if b.mantissa = hiddenBit ∧ -1074 < b.exponent then 1 else 2

theorem below_le (b : Binary) : b.below ≤ 2 := by
  unfold below
  split <;> decide

/-- The least quantity that is read as the number. -/
def lower (b : Binary) : ℚ := (4 * b.mantissa - b.below) * 2 ^ (b.exponent - 2)

/-- The greatest quantity that is read as the number. -/
def upper (b : Binary) : ℚ := (4 * b.mantissa + 2) * 2 ^ (b.exponent - 2)

theorem lower_eq (b : Binary) : b.lower = b.value - b.below * 2 ^ (b.exponent - 2) := by
  unfold lower value
  rw [zpow_sub₀ (by norm_num)]
  ring

theorem upper_eq (b : Binary) : b.upper = b.value + 2 * 2 ^ (b.exponent - 2) := by
  unfold upper value
  rw [zpow_sub₀ (by norm_num)]
  ring

/-- **What is read as the number** lies between two bounds, which are themselves read as it if its
mantissa is even. -/
theorem holds_iff (hm : 0 < b.mantissa) {num den : Nat} (hden : 0 < den) :
    b.holds num den = true ↔
      if b.mantissa % 2 = 0 then b.lower ≤ num / den ∧ (num / den : ℚ) ≤ b.upper
      else b.lower < num / den ∧ (num / den : ℚ) < b.upper := by
  have hlow : (if b.mantissa = hiddenBit ∧ -1074 < b.exponent then 4 * b.mantissa - 1
      else 4 * b.mantissa - 2) = 4 * b.mantissa - b.below := by
    unfold below
    split <;> rfl
  have hdown : 0 < (if 0 ≤ b.exponent - 2 then 1 else Nat.pow 2 (-(b.exponent - 2)).toNat) := by
    split
    · decide
    · exact Nat.pow_pos (by decide)
  have hpower := quotient_eq_zpow (b.exponent - 2)
  have hlower : ((4 * b.mantissa - b.below : Nat) : ℚ) * 2 ^ (b.exponent - 2) = b.lower := by
    have hbelow := b.below_le
    rw [Nat.cast_sub (by omega)]
    push_cast
    rfl
  have hupper : ((4 * b.mantissa + 2 : Nat) : ℚ) * 2 ^ (b.exponent - 2) = b.upper := by
    push_cast
    rfl
  unfold holds
  show (if _ then _ else _) = true ↔ _
  rw [hlow]
  generalize (if 0 ≤ b.exponent - 2 then Nat.pow 2 (b.exponent - 2).toNat else 1) = up at *
  generalize (if 0 ≤ b.exponent - 2 then 1 else Nat.pow 2 (-(b.exponent - 2)).toNat) = down at *
  rw [← hlower, ← hupper, ← hpower]
  split
  · rw [decide_eq_true_iff, le_quotient_iff hdown hden, quotient_le_iff hdown hden]
  · rw [decide_eq_true_iff, ← not_le, ← not_le, quotient_le_iff hdown hden,
      le_quotient_iff hdown hden, not_le, not_le]

/-! ### The leading digit -/

/-- A quotient and a negative power of ten. -/
theorem zpow_neg_le_quotient_iff {num den : Nat} (hden : 0 < den) (k : Nat) :
    (10 : ℚ) ^ (-(k : Int)) ≤ num / den ↔ den ≤ num * 10 ^ k := by
  have hden' : (0 : ℚ) < den := Nat.cast_pos.mpr hden
  have hpower : (0 : ℚ) < 10 ^ k := by positivity
  rw [zpow_neg, zpow_natCast, inv_eq_one_div, div_le_div_iff₀ hpower hden', one_mul]
  exact_mod_cast Iff.rfl

theorem numerator_pos (hm : 0 < b.mantissa) : 0 < b.numerator := by
  unfold numerator
  split
  · exact Nat.mul_pos hm (Nat.pow_pos (by decide))
  · exact hm

/-- **The leading digit** is where the number begins. -/
theorem leading_spec (hm : 0 < b.mantissa) :
    (10 : ℚ) ^ b.leading ≤ b.value ∧ b.value < 10 ^ (b.leading + 1) := by
  have hnum := numerator_pos hm
  have hden := b.denominator_pos
  rw [← numerator_div_denominator]
  unfold leading
  generalize b.numerator = num at hnum
  generalize b.denominator = den at hden
  dsimp only
  split
  · rename_i hle
    have hquotient : 0 < num / den := Nat.div_pos hle hden
    obtain ⟨k, hk⟩ : ∃ k, digitCount (num / den) = k + 1 :=
      ⟨_, (Nat.succ_pred_eq_of_pos Nat.length_toDigits_pos).symm⟩
    have hlow := pow_digitCount_le hquotient
    have hhigh := lt_pow_digitCount (num / den)
    rw [hk, Nat.add_sub_cancel] at hlow
    rw [hk] at hhigh ⊢
    have hleading : ((k + 1 : Nat) : Int) - 1 = k := by omega
    rw [hleading]
    constructor
    · calc (10 : ℚ) ^ (k : Int) = (10 ^ k : Nat) := by push_cast; rfl
        _ ≤ (num / den : Nat) := Nat.cast_le.mpr hlow
        _ ≤ num / den := Nat.cast_div_le
    · rw [div_lt_iff₀ (Nat.cast_pos.mpr hden)]
      have hlt := (Nat.div_lt_iff_lt_mul hden).mp hhigh
      exact_mod_cast hlt
  · rename_i hlt
    have hquotient : 0 < den / num := Nat.div_pos (Nat.le_of_not_le hlt) hnum
    obtain ⟨k, hk⟩ : ∃ k, digitCount (den / num) = k + 1 :=
      ⟨_, (Nat.succ_pred_eq_of_pos Nat.length_toDigits_pos).symm⟩
    have hlow := pow_digitCount_le hquotient
    have hhigh := lt_pow_digitCount (den / num)
    rw [hk, Nat.add_sub_cancel, Nat.le_div_iff_mul_le hnum] at hlow
    rw [hk, Nat.div_lt_iff_lt_mul hnum] at hhigh
    rw [hk, Nat.add_sub_cancel]
    split
    · rename_i hexact
      have hleading : -(((k + 1 : Nat) : Int) - 1) = -(k : Int) := by omega
      rw [hleading]
      refine ⟨(zpow_neg_le_quotient_iff hden k).mpr hexact, ?_⟩
      cases k with
      | zero => exact absurd (by simpa using hexact) hlt
      | succ k =>
        have hnext : -((k + 1 : Nat) : Int) + 1 = -(k : Int) := by omega
        rw [hnext, ← not_le, zpow_neg_le_quotient_iff hden, Nat.not_le]
        have hpositive : 0 < 10 ^ k * num := Nat.mul_pos (Nat.pow_pos (by decide)) hnum
        calc num * 10 ^ k = 10 ^ k * num := Nat.mul_comm _ _
          _ < 10 * (10 ^ k * num) := by omega
          _ = 10 ^ (k + 1) * num := by ring
          _ ≤ den := hlow
    · rename_i hinexact
      rw [Nat.mul_comm] at hhigh
      refine ⟨(zpow_neg_le_quotient_iff hden (k + 1)).mpr hhigh.le, ?_⟩
      have hleading : -((k + 1 : Nat) : Int) + 1 = -(k : Int) := by omega
      rw [hleading, ← not_le, zpow_neg_le_quotient_iff hden]
      exact hinexact

/-! ### Candidates -/

/-- The grid of decimals with so many digits, at the number. -/
def grid (b : Binary) (count : Nat) : Int := b.leading - count + 1

/-- The neighbours of the number are found by dividing it by a step of the grid. -/
theorem neighbours_eq (b : Binary) (count : Nat) : ∃ num den : Nat, 0 < den ∧
    (num / den : ℚ) = b.value / 10 ^ b.grid count ∧
      b.neighbours count = (num / den, b.grid count, num % den, den) := by
  have hden := b.denominator_pos
  refine ⟨if b.grid count < 0 then b.numerator * Nat.pow 10 (-b.grid count).toNat else b.numerator,
    if b.grid count < 0 then b.denominator else b.denominator * Nat.pow 10 (b.grid count).toNat,
    ?_, ?_, rfl⟩
  · split
    · exact hden
    · exact Nat.mul_pos hden (Nat.pow_pos (by decide))
  · rw [← numerator_div_denominator]
    generalize b.grid count = p
    split
    · rename_i hp
      obtain ⟨n, hn⟩ := Int.eq_ofNat_of_zero_le (Int.le_of_lt (Int.neg_pos.mpr hp))
      obtain rfl : p = -(n : Int) := by omega
      simp [mul_div_right_comm]
    · rename_i hp
      obtain ⟨n, rfl⟩ := Int.eq_ofNat_of_zero_le (Int.not_lt.mp hp)
      simp [div_div]

/-- A candidate on the grid is read back. -/
def fits (b : Binary) (p : Int) (digits : Nat) : Bool :=
  if p < 0 then b.holds digits (Nat.pow 10 (-p).toNat)
  else b.holds (digits * Nat.pow 10 p.toNat) 1

theorem exists_holds_of_fits (b : Binary) (p : Int) (digits : Nat) : ∃ num den : Nat, 0 < den ∧
    (num / den : ℚ) = digits * 10 ^ p ∧ b.fits p digits = b.holds num den := by
  unfold fits
  split
  · rename_i hp
    obtain ⟨n, hn⟩ := Int.eq_ofNat_of_zero_le (Int.le_of_lt (Int.neg_pos.mpr hp))
    obtain rfl : p = -(n : Int) := by omega
    exact ⟨_, _, Nat.pow_pos (by decide), by simp [div_eq_mul_inv], rfl⟩
  · rename_i hp
    obtain ⟨n, rfl⟩ := Int.eq_ofNat_of_zero_le (Int.not_lt.mp hp)
    exact ⟨_, _, Nat.one_pos, by simp, rfl⟩

/-- A candidate that is read back is within the bounds. -/
theorem bounds_of_fits (hm : 0 < b.mantissa) {p : Int} {digits : Nat}
    (h : b.fits p digits = true) :
    b.lower ≤ digits * 10 ^ p ∧ (digits * 10 ^ p : ℚ) ≤ b.upper := by
  obtain ⟨num, den, hden, hvalue, hfits⟩ := b.exists_holds_of_fits p digits
  rw [hfits, holds_iff hm hden, hvalue] at h
  split at h
  · exact h
  · exact ⟨h.1.le, h.2.le⟩

/-- A candidate strictly within the bounds is read back. -/
theorem fits_of_bounds (hm : 0 < b.mantissa) {p : Int} {digits : Nat}
    (hlower : b.lower < digits * 10 ^ p) (hupper : (digits * 10 ^ p : ℚ) < b.upper) :
    b.fits p digits = true := by
  obtain ⟨num, den, hden, hvalue, hfits⟩ := b.exists_holds_of_fits p digits
  rw [hfits, holds_iff hm hden, hvalue]
  split
  · exact ⟨hlower.le, hupper.le⟩
  · exact ⟨hlower, hupper⟩

/-- What is found with so many digits is one of the two neighbours of the number, and is read
back. -/
theorem withDigits_eq_some {count : Nat} {d : Digits} (h : b.withDigits count = some d) :
    d.exponent = b.grid count ∧ (d.digits : ℚ) ≤ b.value / 10 ^ b.grid count + 1 ∧
      b.fits d.exponent d.digits = true := by
  obtain ⟨num, den, hden, hvalue, hneighbours⟩ := b.neighbours_eq count
  have hfloor : ((num / den : Nat) : ℚ) ≤ b.value / 10 ^ b.grid count := by
    rw [← hvalue]
    exact Nat.cast_div_le
  have hceiling : ((num / den + 1 : Nat) : ℚ) ≤ b.value / 10 ^ b.grid count + 1 := by
    push_cast
    linarith
  unfold withDigits at h
  rw [hneighbours] at h
  dsimp only at h
  split at h
  · rename_i hlow hhigh
    cases h
    dsimp only
    split
    · exact ⟨rfl, by linarith, hlow⟩
    · exact ⟨rfl, hceiling, hhigh⟩
  · rename_i hlow _
    cases h
    exact ⟨rfl, by dsimp only; linarith, hlow⟩
  · rename_i _ hhigh
    cases h
    exact ⟨rfl, hceiling, hhigh⟩
  · cases h

/-- Something is found if one of the neighbours is read back. -/
theorem isSome_withDigits {count : Nat} {num den : Nat}
    (hneighbours : b.neighbours count = (num / den, b.grid count, num % den, den))
    (h : b.fits (b.grid count) (num / den) = true ∨
      b.fits (b.grid count) (num / den + 1) = true) : (b.withDigits count).isSome := by
  unfold withDigits
  rw [hneighbours]
  dsimp only
  split
  · rfl
  · rfl
  · rfl
  · rename_i hlow hhigh
    unfold fits at h
    rw [hlow, hhigh] at h
    simp at h

/-- A step of the grid of seventeen digits is less than what is read as the number. -/
theorem grid_seventeen_le (hm : 0 < b.mantissa) (hlt : b.mantissa < 0x20000000000000) :
    (10 : ℚ) ^ b.grid 17 ≤ 2 * b.below * 2 ^ (b.exponent - 2) ∧
      (10 : ℚ) ^ b.grid 17 < 4 * 2 ^ (b.exponent - 2) := by
  have hunit : (0 : ℚ) < 2 ^ (b.exponent - 2) := by positivity
  have hvalue : b.value = 4 * b.mantissa * 2 ^ (b.exponent - 2) := by
    unfold value
    rw [zpow_sub₀ (by norm_num)]
    ring
  have hstep : (10 : ℚ) ^ b.grid 17 * 10 ^ 16 ≤ 4 * b.mantissa * 2 ^ (b.exponent - 2) := by
    have hgrid : b.leading = b.grid 17 + 16 := by
      unfold grid
      push_cast
      ring
    have hleading := (leading_spec hm).1
    rw [hvalue, hgrid, zpow_add₀ (by norm_num)] at hleading
    exact_mod_cast hleading
  have hmantissa : (b.mantissa : ℚ) ≤ 2 ^ 53 := by
    exact_mod_cast hlt.le
  generalize (10 : ℚ) ^ b.grid 17 = step at hstep ⊢
  generalize (2 : ℚ) ^ (b.exponent - 2) = unit at hunit hstep ⊢
  refine ⟨?_, by nlinarith⟩
  unfold below
  split
  · rename_i hnarrow
    have hhidden : (b.mantissa : ℚ) = 2 ^ 52 := by
      rw [hnarrow.1]
      norm_num [hiddenBit]
    rw [hhidden] at hstep
    push_cast
    linarith
  · push_cast
    nlinarith

/-- **Seventeen digits suffice.** -/
theorem isSome_withDigits_seventeen (hm : 0 < b.mantissa) (hlt : b.mantissa < 0x20000000000000) :
    (b.withDigits 17).isSome := by
  obtain ⟨num, den, hden, hvalue, hneighbours⟩ := b.neighbours_eq 17
  refine isSome_withDigits hneighbours ?_
  obtain ⟨hbelow, habove⟩ := grid_seventeen_le hm hlt
  have hstep : (0 : ℚ) < 10 ^ b.grid 17 := by positivity
  have hunit : (0 : ℚ) < 2 ^ (b.exponent - 2) := by positivity
  have hbelow' : (0 : ℚ) < b.below := by
    unfold below
    split <;> norm_num
  -- the number lies in the step from the lower neighbour to the upper one
  have hfloor : ((num / den : Nat) : ℚ) * 10 ^ b.grid 17 ≤ b.value := by
    rw [← le_div_iff₀ hstep, ← hvalue]
    exact Nat.cast_div_le
  have hceiling : b.value < ((num / den + 1 : Nat) : ℚ) * 10 ^ b.grid 17 := by
    rw [← div_lt_iff₀ hstep, ← hvalue, div_lt_iff₀ (Nat.cast_pos.mpr hden)]
    exact_mod_cast (Nat.div_lt_iff_lt_mul hden).mp (Nat.lt_succ_self _)
  have hwidth : ((num / den + 1 : Nat) : ℚ) * 10 ^ b.grid 17 =
      ((num / den : Nat) : ℚ) * 10 ^ b.grid 17 + 10 ^ b.grid 17 := by
    push_cast
    ring
  have hspan : (0 : ℚ) < b.below * 2 ^ (b.exponent - 2) := mul_pos hbelow' hunit
  by_cases hnear : 2 * (b.value - ((num / den : Nat) : ℚ) * 10 ^ b.grid 17) < 10 ^ b.grid 17
  · refine Or.inl (fits_of_bounds hm ?_ ?_)
    · rw [lower_eq]
      linarith
    · rw [upper_eq]
      linarith
  · refine Or.inr (fits_of_bounds hm ?_ ?_)
    · rw [lower_eq]
      linarith
    · rw [upper_eq]
      linarith

/-! ### The shortest decimal -/

/-- Zeros at the end are moved into the exponent. -/
theorem stripZeros_spec (fuel : Nat) (d : Digits) :
    ((stripZeros fuel d).digits * 10 ^ (stripZeros fuel d).exponent : ℚ) =
        d.digits * 10 ^ d.exponent ∧
      (stripZeros fuel d).digits ≤ d.digits ∧ (0 < d.digits → 0 < (stripZeros fuel d).digits) := by
  induction fuel generalizing d with
  | zero => exact ⟨rfl, Nat.le_refl _, id⟩
  | succ fuel ih =>
    unfold stripZeros
    split
    · rename_i hzero
      obtain ⟨hvalue, hle, hpos⟩ := ih ⟨d.digits / 10, d.exponent + 1⟩
      have hten : d.digits = d.digits / 10 * 10 := by omega
      refine ⟨?_, by dsimp only at hle; omega, fun _ => hpos (by dsimp only; omega)⟩
      rw [hvalue]
      dsimp only
      rw [zpow_add_one₀ (by norm_num)]
      conv => rhs; rw [hten]
      push_cast
      ring
    · exact ⟨rfl, Nat.le_refl _, id⟩

/-- **The shortest decimal** is not zero, has no more than seventeen digits unless it is one and
seventeen zeros, and is read back. -/
theorem shortest_spec (hm : 0 < b.mantissa) (hlt : b.mantissa < 0x20000000000000) :
    0 < b.shortest.digits ∧ b.shortest.digits ≤ 10 ^ 17 ∧
      (b.shortest.digits * 10 ^ b.shortest.exponent : ℚ) ≤ b.upper := by
  obtain ⟨found, hfound⟩ : ∃ found,
      ((List.range 17).findSome? fun k => b.withDigits (k + 1)) = some found := by
    rw [← Option.isSome_iff_exists, List.findSome?_isSome_iff]
    exact ⟨16, List.mem_range.mpr (by decide), isSome_withDigits_seventeen hm hlt⟩
  obtain ⟨k, hk, hd⟩ := List.exists_of_findSome?_eq_some hfound
  obtain ⟨hexponent, hdigits, hfits⟩ := withDigits_eq_some hd
  obtain ⟨hlower, hupper⟩ := bounds_of_fits hm hfits
  have hshortest : b.shortest = stripZeros 17 found := by
    unfold shortest
    rw [if_neg (by omega), hfound]
  obtain ⟨hvalue, hle, hpos⟩ := stripZeros_spec 17 found
  rw [hshortest, hvalue]
  refine ⟨hpos ?_, hle.trans ?_, hupper⟩
  · have hbelow : (b.below : ℚ) ≤ 2 := by exact_mod_cast b.below_le
    have hone : (1 : ℚ) ≤ b.mantissa := by exact_mod_cast hm
    have hpositive : 0 < b.lower := mul_pos (by linarith) (by positivity)
    have hproduct : (0 : ℚ) < found.digits * 10 ^ found.exponent := lt_of_lt_of_le hpositive hlower
    exact_mod_cast pos_of_mul_pos_left hproduct (by positivity)
  · have hgrid : b.leading + 1 = b.grid (k + 1) + (k + 1 : Nat) := by
      unfold grid
      push_cast
      ring
    have hleading := (leading_spec hm).2
    rw [hgrid, zpow_add₀ (by norm_num), mul_comm, ← div_lt_iff₀ (by positivity),
      zpow_natCast] at hleading
    have hcount : found.digits < 10 ^ (k + 1) + 1 := by
      have hbound : (found.digits : ℚ) < 10 ^ (k + 1) + 1 := by linarith
      exact_mod_cast hbound
    have hseventeen : 10 ^ (k + 1) ≤ 10 ^ 17 :=
      Nat.pow_le_pow_right (by decide) (List.mem_range.mp hk)
    omega

end Binary

end Lookout.Decimal
