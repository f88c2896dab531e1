import Mathlib
import Lookout.Proofs.Decimal.Shortest
/-!
# Rounding to binary64

A product of two numbers is rounded to 53 bits.  A number that has no more bits is a bound that
rounding does not cross (`within_round`): what is no greater than it before is no greater after.
Whole numbers and powers of ten are such products themselves (`within_ofScientific`).  So the
product of the two is finite if it is not among the greatest (`isInf_mul`), and that holds of the
digits of a finite number and their zeros (`isInf_shortest`), the greatest number included.
-/

namespace Lookout.Decimal

open Float.Model Float.Model.UnpackedFloat

/-! ### Bits that are shifted out -/

/-- Shifting halves the mantissa. -/
theorem mantissa_shiftRight (em : ExtendedMantissa) (k : Nat) :
    (em >>> k).mantissa = em.mantissa / 2 ^ k := by
  induction k with
  | zero => exact (Nat.div_one _).symm
  | succ k ih =>
    show (em >>> k).mantissa / 2 = _
    rw [ih, Nat.div_div_eq_div_mul, Nat.pow_succ]

/-- Nothing is noted of zeros that are shifted out. -/
theorem exact_shiftRight (n k : Nat) :
    (⟨n * 2 ^ k, false, false⟩ : ExtendedMantissa) >>> k = ⟨n, false, false⟩ := by
  induction k generalizing n with
  | zero => exact congrArg (ExtendedMantissa.mk · false false) (Nat.mul_one n)
  | succ k ih =>
    show ExtendedMantissa.shiftRightOne ((⟨n * 2 ^ (k + 1), false, false⟩ : ExtendedMantissa) >>> k)
      = _
    rw [Nat.pow_succ', ← Nat.mul_assoc, ih]
    simp [ExtendedMantissa.shiftRightOne]

/-- Rounding goes to the next integer at most. -/
theorem roundedMantissa_bounds (em : ExtendedMantissa) :
    em.mantissa ≤ em.roundedMantissa ∧ em.roundedMantissa ≤ em.mantissa + 1 := by
  rcases em with ⟨mantissa, round, sticky⟩
  cases round <;> cases sticky <;>
    simp only [ExtendedMantissa.roundedMantissa, ExtendedMantissa.accuracy,
      Accuracy.roundToNearestEven] <;> omega

/-- A quotient by a power of two, rounded. -/
def roundedShift (n k : Nat) : Nat :=
  ((⟨n, false, false⟩ : ExtendedMantissa) >>> k).roundedMantissa

theorem div_le_roundedShift (n k : Nat) : n / 2 ^ k ≤ roundedShift n k := by
  have hle := (roundedMantissa_bounds ((⟨n, false, false⟩ : ExtendedMantissa) >>> k)).1
  rwa [mantissa_shiftRight] at hle

/-- Rounding crosses no integer. -/
theorem roundedShift_le {n k q : Nat} (h : n ≤ q * 2 ^ k) : roundedShift n k ≤ q := by
  have hpower : 0 < 2 ^ k := Nat.two_pow_pos k
  by_cases hlt : n / 2 ^ k < q
  · have hle := (roundedMantissa_bounds ((⟨n, false, false⟩ : ExtendedMantissa) >>> k)).2
    rw [mantissa_shiftRight] at hle
    exact hle.trans hlt
  · obtain rfl : n = q * 2 ^ k :=
      Nat.le_antisymm h ((Nat.le_div_iff_mul_le hpower).mp (Nat.le_of_not_lt hlt))
    unfold roundedShift
    rw [exact_shiftRight]
    exact Nat.le_refl q

/-- The unit of a number that was shifted, in units of the number before. -/
theorem zpow_add_shift (e : Int) (k : Nat) : (2 : ℚ) ^ (e + (k : Int)) = 2 ^ k * 2 ^ e := by
  rw [zpow_add₀ (by norm_num), zpow_natCast, mul_comm]

/-- A number that is no greater than some units is no greater after rounding to these units. -/
theorem roundedShift_mul_le {m k q : Nat} {e : Int}
    (h : (m * 2 ^ e : ℚ) ≤ q * 2 ^ (e + (k : Int))) :
    (roundedShift m k * 2 ^ (e + (k : Int)) : ℚ) ≤ q * 2 ^ (e + (k : Int)) := by
  have hunit : (0 : ℚ) < 2 ^ e := by positivity
  have hle : m ≤ q * 2 ^ k := by
    rw [zpow_add_shift, ← mul_assoc, mul_le_mul_iff_left₀ hunit] at h
    exact_mod_cast h
  have hrounded : (roundedShift m k : ℚ) ≤ q := by
    exact_mod_cast roundedShift_le hle
  gcongr

/-! ### Rounding -/

/-- A shift to the exponent that a mantissa should have. -/
theorem shiftToTargetExponent_eq (m : Nat) (e : Int) :
    shiftToTargetExponent .binary64 m e .exact =
      ((⟨m, false, false⟩ : ExtendedMantissa) >>> (max (m.log2 + e - 52) (-1074) - e).toNat,
        e + (max (m.log2 + e - 52) (-1074) - e).toNat) := by
  have htarget : Format.binary64.targetExponent (totalExponent m e) =
      max (m.log2 + e - 52) (-1074) := by
    simp only [Format.targetExponent, totalExponent, Format.mantissaBits, Format.minExponent]
    norm_num
    omega
  unfold shiftToTargetExponent
  rw [htarget]
  rfl

/-- How far a number of 53 bits or more is shifted to have 53 of them. -/
theorem exists_log2_eq {m : Nat} (hm : 2 ^ 52 ≤ m) : ∃ k, m.log2 = 52 + k ∧ 2 ^ 52 * 2 ^ k ≤ m := by
  have hne : m ≠ 0 := by omega
  have hlog : 52 ≤ m.log2 := (Nat.le_log2 hne).mpr hm
  obtain ⟨k, hk⟩ := Nat.exists_eq_add_of_le hlog
  refine ⟨k, hk, ?_⟩
  rw [← Nat.pow_add, ← hk]
  exact Nat.log2_self_le hne

/-- **A number of 53 bits or more is rounded** to 53 bits. -/
theorem exists_roundWithAccuracy {m k : Nat} {e : Int} (hm : 2 ^ 52 * 2 ^ k ≤ m)
    (hk : m.log2 = 52 + k) (he : -1074 ≤ e) (s : Sign) :
    ∃ m' e' hpos, roundWithAccuracy .binary64 s m e .exact = .finite s m' e' hpos ∧
      2 ^ 52 ≤ m' ∧ m' < 2 ^ 53 ∧ e ≤ e' ∧
      (m' * 2 ^ e' : ℚ) = roundedShift m k * 2 ^ (e + (k : Int)) := by
  have hshift : (max (m.log2 + e - 52) (-1074) - e).toNat = k := by omega
  have hlow : 2 ^ 52 ≤ roundedShift m k :=
    ((Nat.le_div_iff_mul_le (Nat.two_pow_pos k)).mpr hm).trans (div_le_roundedShift m k)
  have hhigh : roundedShift m k ≤ 2 ^ 53 := by
    refine roundedShift_le ?_
    rw [← Nat.pow_add, show 53 + k = m.log2 + 1 by omega]
    exact Nat.le_of_lt Nat.lt_log2_self
  unfold roundWithAccuracy
  rw [shiftToTargetExponent_eq, hshift]
  dsimp only
  rw [shiftToTargetExponent_eq, show (ExtendedMantissa.mk m false false >>> k).roundedMantissa =
    roundedShift m k from rfl]
  dsimp only
  generalize roundedShift m k = r at hlow hhigh
  by_cases hlt : r < 2 ^ 53
  · have hr : r.log2 = 52 := (Nat.log2_eq_iff (by omega)).mpr ⟨hlow, hlt⟩
    have hnone : (max (r.log2 + (e + k) - 52) (-1074) - (e + k)).toNat = 0 := by omega
    rw [hnone]
    refine ⟨r, e + k, by omega, ?_, hlow, hlt, by omega, rfl⟩
    show (if h : r = 0 then _ else UnpackedFloat.finite s r (e + k + (0 : Nat)) _) = _
    rw [dif_neg (by omega)]
    simp
  · -- rounding up may give a power of two of one more bit
    obtain rfl : r = 2 ^ 53 := Nat.le_antisymm hhigh (Nat.le_of_not_lt hlt)
    have hone : (max ((2 ^ 53).log2 + (e + k) - 52) (-1074) - (e + k)).toNat = 1 := by
      rw [Nat.log2_two_pow]
      omega
    rw [hone]
    refine ⟨2 ^ 52, e + k + 1, by decide, rfl, le_rfl, by decide, by omega, ?_⟩
    rw [zpow_add_one₀ (by norm_num)]
    push_cast
    ring

/-! ### Bounds -/

/-- A natural number of no more than 53 bits before its zeros. -/
def Representable (n : Nat) : Prop := ∃ k f, k ≤ 2 ^ 53 ∧ n = k * 2 ^ f

/-- The greatest finite number. -/
def greatest : Nat := (2 ^ 53 - 1) * 2 ^ 971

/-- A positive number of 53 bits that is no greater than another number, and whose last bit is at
some place at least. -/
def Within (u : UnpackedFloat) (least : Int) (n : Nat) : Prop :=
  ∃ m e hpos, u = .finite .positive m e hpos ∧ 2 ^ 52 ≤ m ∧ m < 2 ^ 53 ∧ least ≤ e ∧
    (m * 2 ^ e : ℚ) ≤ n

/-- **Rounding crosses no number that can be represented.** -/
theorem within_round {m n : Nat} {e : Int} (hm : 2 ^ 52 ≤ m) (he : -1074 ≤ e)
    (hn : Representable n) (h : (m * 2 ^ e : ℚ) ≤ n) :
    Within (roundWithAccuracy .binary64 .positive m e .exact) e n := by
  obtain ⟨k, hk, hlog⟩ := exists_log2_eq hm
  obtain ⟨m', e', hpos, hround, hlow, hhigh, hleast, hvalue⟩ :=
    exists_roundWithAccuracy hlog hk he .positive
  refine ⟨m', e', hpos, hround, hlow, hhigh, hleast, ?_⟩
  rw [hvalue]
  obtain ⟨q, f, hq, rfl⟩ := hn
  by_cases hf : e + (k : Int) ≤ f
  · -- the bound is a whole number of units
    obtain ⟨j, hj⟩ := Int.le.dest hf
    have hbound : ((q * 2 ^ f : Nat) : ℚ) = (q * 2 ^ j : Nat) * 2 ^ (e + (k : Int)) := by
      push_cast
      rw [mul_assoc, ← zpow_natCast, ← zpow_natCast, ← hj, ← zpow_add₀ (by norm_num),
        add_comm (e + (k : Int))]
    rw [hbound] at h ⊢
    exact roundedShift_mul_le h
  · -- the number is the least one with this unit
    have hbound : ((q * 2 ^ f : Nat) : ℚ) ≤ (2 ^ 52 : Nat) * 2 ^ (e + (k : Int)) := by
      have hnext : (2 : ℚ) ^ (f + 1 : Int) ≤ 2 ^ (e + (k : Int)) :=
        zpow_le_zpow_right₀ (by norm_num) (by omega)
      have hq' : (q : ℚ) ≤ 2 ^ 53 := by exact_mod_cast hq
      have hpositive : (0 : ℚ) < 2 ^ f := by positivity
      rw [zpow_add_one₀ (by norm_num), zpow_natCast] at hnext
      push_cast
      nlinarith
    have hleast : ((2 ^ 52 : Nat) : ℚ) * 2 ^ (e + (k : Int)) ≤ m * 2 ^ e := by
      have hcast : ((2 ^ 52 : Nat) : ℚ) * 2 ^ k ≤ m := by exact_mod_cast hlog
      rw [zpow_add_shift, ← mul_assoc]
      gcongr
    exact ((roundedShift_mul_le (h.trans hbound)).trans hleast).trans h

theorem Within.mono {u : UnpackedFloat} {a b : Int} {n : Nat} (h : Within u a n) (hab : b ≤ a) :
    Within u b n := by
  obtain ⟨m, e, hpos, hu, hlow, hhigh, hleast, hvalue⟩ := h
  exact ⟨m, e, hpos, hu, hlow, hhigh, hab.trans hleast, hvalue⟩

/-- **Products** are no greater than the product of the bounds of their factors. -/
theorem Within.mul {u v : UnpackedFloat} {a b : Int} {p q n : Nat} (hu : Within u a p)
    (hv : Within v b q) (hab : -1074 ≤ a + b) (hn : Representable n) (h : p * q ≤ n) :
    Within (UnpackedFloat.mul .binary64 u v) (a + b) n := by
  obtain ⟨m, e, hpos, rfl, hlow, -, hleast, hvalue⟩ := hu
  obtain ⟨m', e', hpos', rfl, hlow', -, hleast', hvalue'⟩ := hv
  refine Within.mono (within_round ?_ (by omega) hn ?_) (by omega : a + b ≤ e + e')
  · exact (by decide : 2 ^ 52 ≤ 2 ^ 52 * 2 ^ 52).trans (Nat.mul_le_mul hlow hlow')
  · calc ((m * m' : Nat) : ℚ) * 2 ^ (e + e') = m * 2 ^ e * (m' * 2 ^ e') := by
          rw [zpow_add₀ (by norm_num)]
          push_cast
          ring
      _ ≤ p * q := by gcongr
      _ ≤ n := by exact_mod_cast h

/-! ### Numbers in 64 bits -/

/-- The exponent of a finite number. -/
theorem exponent_le {m n : Nat} {e : Int} (hm : 2 ^ 52 ≤ m) (h : (m * 2 ^ e : ℚ) ≤ n)
    (hn : n ≤ greatest) : e ≤ 971 := by
  have hlt : (2 : ℚ) ^ (52 + e) < 2 ^ (1024 : Int) := by
    calc (2 : ℚ) ^ (52 + e) = 2 ^ 52 * 2 ^ e := by
          rw [zpow_add₀ (by norm_num)]
          norm_num
      _ ≤ m * 2 ^ e := by
          gcongr
          exact_mod_cast hm
      _ ≤ n := h
      _ ≤ greatest := by exact_mod_cast hn
      _ < 2 ^ (1024 : Int) := by
          exact_mod_cast (by decide +kernel : greatest < 2 ^ 1024)
  have hexponent := (zpow_lt_zpow_iff_right₀ (by norm_num : (1 : ℚ) < 2)).mp hlt
  omega

/-- A number of 53 bits is packed without the first of them. -/
theorem pack_eq {m b : Nat} {e : Int} (hpos : 0 < m) (hlow : 2 ^ 52 ≤ m) (hhigh : m < 2 ^ 53)
    (hb : e + 1075 = b) (hlt : b < 2047) :
    UnpackedFloat.pack .binary64 (.finite .positive m e hpos) =
      packComponents .binary64 .positive (BitVec.ofNat 11 b) (BitVec.ofNat 52 m) := by
  have hlog : m.log2 = 52 := (Nat.log2_eq_iff (by omega)).mpr ⟨hlow, hhigh⟩
  have hbias : (e + (1023 : Nat) + (52 : Nat)).toNat = b := by omega
  show (if 2 ^ 11 ≤ (e + (1023 : Nat) + (52 : Nat)).toNat + 1 then _ else
    if m.log2 + 1 = 53 then packComponents .binary64 .positive
      (BitVec.ofNat 11 (e + (1023 : Nat) + (52 : Nat)).toNat) _ else _) = _
  rw [hbias, if_neg (by omega), if_pos (by omega)]

/-- The first bit is put back. -/
theorem toNat_append_ofNat {m : Nat} (hlow : 2 ^ 52 ≤ m) (hhigh : m < 2 ^ 53) :
    (1#1 ++ BitVec.ofNat 52 m).toNat = m := by
  rw [BitVec.toNat_append, ← Nat.shiftLeft_add_eq_or_of_lt (BitVec.ofNat 52 m).isLt,
    BitVec.toNat_ofNat]
  show 1 <<< 52 + m % 2 ^ 52 = m
  rw [Nat.shiftLeft_eq]
  omega

/-- A finite number is kept in 64 bits as it is. -/
theorem Within.unpack_pack {u : UnpackedFloat} {a : Int} {n : Nat} (h : Within u a n)
    (ha : -1074 ≤ a) (hn : n ≤ greatest) : (Float.Model.pack u).unpack = u := by
  obtain ⟨m, e, hpos, rfl, hlow, hhigh, hleast, hvalue⟩ := h
  have hexponent := exponent_le hlow hvalue hn
  obtain ⟨b, hb⟩ := Int.eq_ofNat_of_zero_le (by omega : 0 ≤ e + 1075)
  have hfield : (BitVec.ofNat 11 b).toNat = b := by
    rw [BitVec.toNat_ofNat, Nat.mod_eq_of_lt (by omega)]
  -- the exponent that is kept is neither of the two that stand for something else
  have hne {c : BitVec 11} (hc : b ≠ c.toNat) : BitVec.ofNat 11 b ≠ c := by
    intro heq
    exact hc (hfield.symm.trans (congrArg BitVec.toNat heq))
  have hones : BitVec.ofNat 11 b ≠ -1#11 := hne (by show b ≠ 2047; omega)
  have hzero : BitVec.ofNat 11 b ≠ 0#11 := hne (by show b ≠ 0; omega)
  show UnpackedFloat.unpack .binary64 (UnpackedFloat.pack .binary64 _) = _
  rw [pack_eq hpos hlow hhigh hb (by omega)]
  unfold UnpackedFloat.unpack
  simp only [unpackMantissa_packComponents, unpackExponent_packComponents,
    unpackSign_packComponents]
  rw [if_neg hones, if_neg hzero]
  simp only [toNat_append_ofNat hlow hhigh, hfield, UnpackedFloat.finite.injEq]
  refine ⟨rfl, trivial, ?_⟩
  show (b : Int) - ((1023 : Nat) + (52 : Nat)) = e
  omega

/-- A product of numbers in 64 bits. -/
theorem within_mul {x y : Float} {a b : Int} {p q n : Nat} (hx : Within x.toModel.unpack a p)
    (hy : Within y.toModel.unpack b q) (hab : -1074 ≤ a + b) (hn : Representable n)
    (h : p * q ≤ n) (hgreatest : n ≤ greatest) : Within (x * y).toModel.unpack (a + b) n := by
  have hproduct := hx.mul hy hab hn h
  show Within (Float.Model.pack _).unpack _ _
  rwa [hproduct.unpack_pack hab hgreatest]

/-! ### Decimals -/

theorem table_checked : ∀ k : Fin Float.exactlyRepresentablePowersOfTen.size,
    (match Float.exactlyRepresentablePowersOfTen[k].toModel.unpack with
      | .finite .positive m e _ => decide (2 ^ 52 ≤ m ∧ m < 2 ^ 53 ∧ -52 ≤ e ∧
          m * 2 ^ e.toNat ≤ 10 ^ k.val * 2 ^ (-e).toNat)
      | _ => false) = true := by
  decide +kernel

/-- The powers of ten in the table are the powers of ten. -/
theorem within_exactlyRepresentablePowersOfTen {k : Nat}
    (hk : k < Float.exactlyRepresentablePowersOfTen.size) :
    Within Float.exactlyRepresentablePowersOfTen[k].toModel.unpack (-52) (10 ^ k) := by
  have hentry := table_checked ⟨k, hk⟩
  split at hentry
  · rename_i m e hpos hunpack
    obtain ⟨hlow, hhigh, hleast, hvalue⟩ := of_decide_eq_true hentry
    refine ⟨m, e, hpos, hunpack, hlow, hhigh, hleast, ?_⟩
    have hcast : (m * 2 ^ e.toNat : ℚ) ≤ (10 ^ k : Nat) * 2 ^ (-e).toNat := by exact_mod_cast hvalue
    calc (m * 2 ^ e : ℚ) = m * 2 ^ e.toNat / 2 ^ (-e).toNat := by
          rw [mul_div_assoc, ← zpow_natCast, ← zpow_natCast, ← zpow_sub₀ (by norm_num)]
          congr 2
          omega
      _ ≤ (10 ^ k : Nat) := (div_le_iff₀ (by positivity)).mpr hcast
  · cases hentry

/-- A whole number of 53 bits gets zeros behind it before it is rounded. -/
theorem ofNat_eq_roundWithAccuracy {m j : Nat} (hm : 0 < m) (hj : 52 = m.log2 + j) :
    UnpackedFloat.ofNat .binary64 m =
      roundWithAccuracy .binary64 .positive (m <<< j) (-(j : Int)) .exact := by
  have htarget : Format.binary64.targetExponent (totalExponent m 0) = (m.log2 : Int) - 52 := by
    simp only [Format.targetExponent, totalExponent, Format.mantissaBits, Format.minExponent]
    norm_num
    omega
  show UnpackedFloat.normalize .binary64 m 0 .positive = _
  unfold UnpackedFloat.normalize
  rw [Int.compare_eq_gt.mpr (by omega)]
  show UnpackedFloat.round .binary64 .positive m 0 = _
  unfold UnpackedFloat.round
  rw [htarget]
  unfold decreaseExponent
  dsimp only
  rw [show (0 - ((m.log2 : Int) - 52)).toNat = j by omega, Int.zero_sub]

/-- A whole number of 53 bits is kept as it is. -/
theorem within_toFloat {m : Nat} (hm : 0 < m) (hlt : m < 2 ^ 53) :
    Within m.toUInt64.toFloat.toModel.unpack (-52) m := by
  have hlog : m.log2 < 53 := (Nat.log2_lt (by omega)).mpr hlt
  have hnat : m.toUInt64.toNat = m := by
    rw [Nat.toUInt64, UInt64.toNat_ofNat']
    omega
  have hgreatest : m ≤ greatest := by
    refine hlt.le.trans ?_
    decide +kernel
  have hround : Within (UnpackedFloat.ofNat .binary64 m) (-52) m := by
    obtain ⟨j, hj⟩ : ∃ j, 52 = m.log2 + j := ⟨52 - m.log2, by omega⟩
    have hlow := Nat.log2_self_le (by omega : m ≠ 0)
    rw [ofNat_eq_roundWithAccuracy hm hj]
    refine (within_round ?_ (by omega) ⟨m, 0, hlt.le, (Nat.mul_one m).symm⟩ ?_).mono (by omega)
    · rw [Nat.shiftLeft_eq, hj, Nat.pow_add]
      exact Nat.mul_le_mul_right _ hlow
    · rw [Nat.shiftLeft_eq, zpow_neg, zpow_natCast]
      push_cast
      rw [mul_assoc, mul_inv_cancel₀ (by positivity), mul_one]
  show Within (Float.Model.pack (UnpackedFloat.ofNat .binary64 m.toUInt64.toNat)).unpack _ _
  rwa [hnat, hround.unpack_pack (by decide) hgreatest]

/-- **A whole number and zeros** are no greater than what they are no greater than, if it can be
represented. -/
theorem within_ofScientific {m k n : Nat} (hm : 0 < m) (hk : k ≤ 2048) (hn : Representable n)
    (h : m * 10 ^ k ≤ n) (hgreatest : n ≤ greatest) :
    Within (Float.ofScientific m false k).toModel.unpack (-104) n := by
  unfold Float.ofScientific
  split
  · rename_i hsmall
    rw [if_neg Bool.false_ne_true]
    exact within_mul (within_toFloat hm hsmall.1) (within_exactlyRepresentablePowersOfTen _)
      (by decide) hn h hgreatest
  · have hproduct : UnpackedFloat.ofScientific .binary64 m k =
        roundWithAccuracy .binary64 .positive (m <<< 53 * 10 ^ k) (-53) .exact := by
      unfold UnpackedFloat.ofScientific
      rw [dif_neg (by omega), if_neg (by show ¬(k : Int) > 2048; omega),
        if_neg (by show ¬(k : Int) < -(2048 + (m.log2 : Int)); omega), if_pos (by omega)]
      rfl
    have hvalue : Within (UnpackedFloat.ofScientific .binary64 m k) (-53) n := by
      rw [hproduct]
      refine within_round ?_ (by decide) hn ?_
      · rw [Nat.shiftLeft_eq]
        have hpower : 0 < 10 ^ k := Nat.pow_pos (by decide)
        nlinarith
      · rw [Nat.shiftLeft_eq]
        have hle : (m * 10 ^ k : ℚ) ≤ n := by exact_mod_cast h
        push_cast
        norm_num
        linarith
    show Within (Float.Model.pack (UnpackedFloat.ofScientific .binary64 m k)).unpack _ _
    rw [hvalue.unpack_pack (by decide) hgreatest]
    exact hvalue.mono (by decide)

/-- A number of 53 bits that is no less. -/
def ceiling (n : Nat) : Nat :=
  (n + (2 ^ (n.log2 - 52) - 1)) / 2 ^ (n.log2 - 52) * 2 ^ (n.log2 - 52)

theorem le_ceiling (n : Nat) : n ≤ ceiling n := by
  unfold ceiling
  have hpower : 0 < 2 ^ (n.log2 - 52) := Nat.two_pow_pos _
  have hdiv := Nat.lt_div_mul_add hpower (a := n + (2 ^ (n.log2 - 52) - 1))
  omega

theorem representable_ceiling (n : Nat) : Representable (ceiling n) := by
  refine ⟨_, _, ?_, rfl⟩
  have hpower : 0 < 2 ^ (n.log2 - 52) := Nat.two_pow_pos _
  refine Nat.lt_succ_iff.mp ((Nat.div_lt_iff_lt_mul hpower).mpr ?_)
  have hlt : n < 2 ^ 53 * 2 ^ (n.log2 - 52) := by
    rw [← Nat.pow_add]
    exact Nat.lt_log2_self.trans_le (Nat.pow_le_pow_right (by decide) (by omega))
  rw [Nat.succ_mul]
  omega

theorem le_mul_ceiling (n : Nat) {m : Nat} (hm : 0 < m) : n ≤ n * ceiling m :=
  Nat.le_mul_of_pos_right n (hm.trans_le (le_ceiling m))

/-- Half way from the greatest finite number to the one before it. -/
def nearGreatest : Nat := (2 ^ 54 - 3) * 2 ^ 970

/-- Rounding up the factors of a decimal that is not greater makes no infinity. -/
theorem ceilings_le_greatest : ∀ p < 309,
    ceiling (min (10 ^ 17) (nearGreatest / 10 ^ p)) * ceiling (10 ^ p) ≤ greatest := by
  decide +kernel

/-- No decimal that is not greater has more zeros. -/
theorem lt_of_le_nearGreatest {digits p : Nat} (hpos : 0 < digits)
    (h : digits * 10 ^ p ≤ nearGreatest) : p < 309 := by
  refine Nat.lt_of_not_le fun hle => ?_
  obtain ⟨q, rfl⟩ : ∃ q, p = 155 + (154 + q) := ⟨p - 309, by omega⟩
  have hlarge : nearGreatest < 10 ^ 155 * 10 ^ 154 := by decide +kernel
  rw [Nat.pow_add, Nat.pow_add] at h
  have hone : 1 ≤ digits * 10 ^ q := Nat.mul_pos hpos (Nat.pow_pos (by decide))
  nlinarith

/-- **Seventeen digits and a power of ten** are multiplied to a finite number unless the product is
among the greatest ones. -/
theorem isInf_mul {digits p : Nat} (hpos : 0 < digits) (hdigits : digits ≤ 10 ^ 17)
    (h : digits * 10 ^ p ≤ nearGreatest) :
    (Float.ofNat digits * Float.ofScientific 1 false p).isInf = false := by
  have hpower : 0 < 10 ^ p := Nat.pow_pos (by decide)
  have hp := lt_of_le_nearGreatest hpos h
  have hceilings := ceilings_le_greatest p hp
  have hbound : digits ≤ min (10 ^ 17) (nearGreatest / 10 ^ p) :=
    Nat.le_min.mpr ⟨hdigits, (Nat.le_div_iff_mul_le hpower).mpr h⟩
  generalize min (10 ^ 17) (nearGreatest / 10 ^ p) = bound at hceilings hbound
  have hfirst : ceiling bound ≤ greatest := (le_mul_ceiling _ hpower).trans hceilings
  have hsecond : ceiling (10 ^ p) ≤ greatest := by
    rw [Nat.mul_comm] at hceilings
    exact (le_mul_ceiling _ (hpos.trans_le hbound)).trans hceilings
  have hproduct := within_mul
    (within_ofScientific hpos (Nat.zero_le _) (representable_ceiling bound)
      (by rw [Nat.pow_zero, Nat.mul_one]; exact hbound.trans (le_ceiling bound)) hfirst)
    (within_ofScientific Nat.one_pos (hp.le.trans (by decide)) (representable_ceiling (10 ^ p))
      (by rw [Nat.one_mul]; exact le_ceiling _) hsecond)
    (by decide) ⟨2 ^ 53 - 1, 971, by decide, rfl⟩ hceilings le_rfl
  obtain ⟨m, e, hm, hunpack, -⟩ := hproduct
  show UnpackedFloat.isInf _ = false
  rw [show Float.ofNat digits = Float.ofScientific digits false 0 from rfl, hunpack]
  rfl

/-! ### Numbers taken apart -/

/-- **The finite numbers** are those that are read as integers times powers of two. -/
theorem isFinite_iff (x : Float) : x.isFinite = true ↔ ∃ b, read x = .finite b := by
  have hfield : (@unpackExponent .binary64 x.toBits.toBitVec).toNat =
      x.toBits.toNat / hiddenBit % 2048 := by
    show (BitVec.extractLsb 62 52 x.toBits.toBitVec).toNat = _
    rw [BitVec.extractLsb_toNat, Nat.shiftRight_eq_div_pow]
    rfl
  have hfinite : x.isFinite = true ↔ x.toBits.toNat / hiddenBit % 2048 ≠ 2047 := by
    rw [← hfield]
    show (UnpackedFloat.unpack .binary64 x.toBits.toBitVec).isFinite = true ↔ _
    unfold UnpackedFloat.unpack
    dsimp only
    split
    · rename_i hones
      rw [hones]
      constructor
      · intro hinfinite
        split at hinfinite <;> cases hinfinite
      · exact fun hne => absurd rfl hne
    · rename_i hones
      refine ⟨fun _ heq => hones (BitVec.eq_of_toNat_eq heq), fun _ => ?_⟩
      split
      · split <;> rfl
      · rfl
  rw [hfinite]
  unfold read readBits
  dsimp only
  constructor
  · intro hne
    rw [if_neg (by omega)]
    split
    · exact ⟨_, rfl⟩
    · exact ⟨_, rfl⟩
  · rintro ⟨b, hb⟩ heq
    rw [if_pos (by omega)] at hb
    split at hb <;> cases hb

/-- The bounds of what is read of a finite number. -/
theorem bounds_of_read {x : Float} {b : Binary} (h : read x = .finite b) :
    b.mantissa < 2 ^ 53 ∧ b.exponent ≤ 971 := by
  unfold read readBits at h
  dsimp only at h
  have hfraction : x.toBits.toNat % hiddenBit < hiddenBit := Nat.mod_lt _ (by decide)
  generalize x.toBits.toNat % hiddenBit = fraction at h hfraction
  have hfield : x.toBits.toNat / hiddenBit % 2048 < 2048 := Nat.mod_lt _ (by decide)
  generalize x.toBits.toNat / hiddenBit % 2048 = field at h hfield
  unfold hiddenBit at h hfraction
  split at h
  · split at h <;> cases h
  · split at h <;> cases h
    · exact ⟨by dsimp only; omega, by dsimp only; omega⟩
    · exact ⟨by dsimp only; omega, by dsimp only; omega⟩

/-! ### Shortest decimals -/

namespace Binary

variable {b : Binary}

/-- What is read as a number other than the greatest is not among the greatest ones. -/
theorem upper_le_nearGreatest (hlt : b.mantissa < 2 ^ 53) (he : b.exponent ≤ 971)
    (hother : ¬(b.mantissa = 2 ^ 53 - 1 ∧ b.exponent = 971)) : b.upper ≤ nearGreatest := by
  have hnear : (nearGreatest : ℚ) = 72057594037927924 * 2 ^ (968 : Int) := by
    have hnat : nearGreatest = 72057594037927924 * 2 ^ 968 := by decide +kernel
    rw [hnat, Nat.cast_mul, Nat.cast_pow, ← zpow_natCast]
    rfl
  have hmantissa : (b.mantissa : ℚ) + 1 ≤ 9007199254740992 := by exact_mod_cast hlt
  rw [hnear]
  unfold upper
  by_cases htop : b.exponent = 971
  · have hsmaller : (b.mantissa : ℚ) + 2 ≤ 9007199254740992 := by
      have hsmaller : b.mantissa + 2 ≤ 9007199254740992 := by omega
      exact_mod_cast hsmaller
    rw [htop, show (971 : Int) - 2 = 968 + 1 by rfl, zpow_add_one₀ (by norm_num)]
    have hpositive : (0 : ℚ) < 2 ^ (968 : Int) := by positivity
    generalize (2 : ℚ) ^ (968 : Int) = unit at hpositive
    nlinarith
  · have hunit : (2 : ℚ) ^ (b.exponent - 2) ≤ 2 ^ (968 : Int) :=
      zpow_le_zpow_right₀ (by norm_num) (by omega)
    have hpositive : (0 : ℚ) < 2 ^ (b.exponent - 2) := by positivity
    generalize (2 : ℚ) ^ (968 : Int) = unit at hunit
    nlinarith

/-- **The digits of a finite number and their zeros** are multiplied to a finite number. -/
theorem isInf_shortest (hm : 0 < b.mantissa) (hlt : b.mantissa < 2 ^ 53) (he : b.exponent ≤ 971)
    {p : Nat} (hp : b.shortest.exponent = p) :
    p < 309 ∧ (Float.ofNat b.shortest.digits * Float.ofScientific 1 false p).isInf = false := by
  by_cases htop : b.mantissa = 2 ^ 53 - 1 ∧ b.exponent = 971
  · have hshortest : b.shortest = ⟨17976931348623157, 292⟩ := by
      obtain ⟨negative, mantissa, exponent⟩ := b
      obtain ⟨rfl, rfl⟩ := htop
      cases negative <;> decide +kernel
    rw [hshortest] at hp ⊢
    obtain rfl : p = 292 := (Int.ofNat.inj hp).symm
    exact ⟨by decide, by decide +kernel⟩
  · obtain ⟨hpos, hdigits, hupper⟩ := shortest_spec hm hlt
    have hbound : b.shortest.digits * 10 ^ p ≤ nearGreatest := by
      rw [hp, zpow_natCast] at hupper
      exact_mod_cast hupper.trans (upper_le_nearGreatest hlt he htop)
    exact ⟨lt_of_le_nearGreatest hpos hbound, isInf_mul hpos hdigits hbound⟩

end Binary

end Lookout.Decimal
