import Lookout.Proofs.Json.Numbers
import Lookout.Proofs.Text.Reading
/-!
# Whole numbers

The characters of a number spell a whole number if they are its decimal digits, after a minus sign
if it is negative (`wholeOf?`); a fraction or an exponent makes it another kind of number, and so
does the minus sign of a zero.

* **A whole number is read as such exactly if it fits 64 bits** (`numberOf?_eq_whole_iff`).
-/

namespace Lookout.Json

open Lookout.Text

/-- The number that some characters are read as, if all of them are taken. -/
def numberOf? (token : List Char) : Option Number :=
  match readNumber token with
  | .ok (n, []) => some n
  | _ => none

/-- The whole number that the characters of a number spell. -/
def wholeOf? : List Char → Option Int
  | '-' :: ds => (digitsValue? ds).bind fun n => if n = 0 then none else some (-n)
  | ds => (digitsValue? ds).map Int.ofNat

/-! ### Digits that are kept -/

theorem addDigit_eq (n : Nat) (c : Char) : addDigit n c = n * 10 + digitValue c := by
  rw [addDigit, Nat.mul_comm, digitValue]

theorem le_foldl_addDigit (ds : List Char) (n : Nat) : n ≤ ds.foldl addDigit n := by
  induction ds generalizing n with
  | nil => exact Nat.le_refl n
  | cons d ds ih =>
    refine Nat.le_trans ?_ (ih (addDigit n d))
    rw [addDigit_eq]
    omega

/-- All digits are absorbed if their value fits. -/
theorem absorb_of_fits {n count : Nat} {ds : List Char} (hds : ∀ d ∈ ds, d.isDigit = true)
    (hfits : ds.foldl addDigit n < 0x10000000000000000) :
    absorb n count ds = (ds.foldl addDigit n, count + ds.length, []) := by
  induction ds generalizing n count with
  | nil => rfl
  | cons d ds ih =>
    rw [List.foldl_cons] at hfits ⊢
    have hnext : n * 10 + digitValue d < 0x10000000000000000 := by
      rw [← addDigit_eq]
      exact Nat.lt_of_le_of_lt (le_foldl_addDigit ds _) hfits
    rw [absorb, if_pos ⟨hds d List.mem_cons_self, hnext⟩, ← addDigit_eq,
      ih (fun d hd => hds d (List.mem_cons_of_mem _ hd)) hfits, List.length_cons]
    rw [Nat.add_right_comm]
    rfl

/-- Where all is absorbed there are only digits, and their value is what is kept. -/
theorem fits_of_absorb {n count : Nat} {cs : List Char} (hn : n < 0x10000000000000000)
    (h : (absorb n count cs).2.2 = []) : (∀ c ∈ cs, c.isDigit = true) ∧
      cs.foldl addDigit n = (absorb n count cs).1 ∧
        (absorb n count cs).1 < 0x10000000000000000 := by
  induction cs generalizing n count with
  | nil => exact ⟨nofun, rfl, hn⟩
  | cons c cs ih =>
    rw [absorb] at h ⊢
    split at h
    · rename_i hc
      rw [if_pos hc]
      obtain ⟨hdigits, hvalue, hfits⟩ := ih hc.2 h
      refine ⟨?_, ?_, hfits⟩
      · simpa [hc.1] using hdigits
      · rw [List.foldl_cons, addDigit_eq]
        exact hvalue
    · cases h

/-! ### Whole numbers -/

section

variable {negative : Bool} {kept : Nat} {cs : List Char} {n : Int}

theorem wholeNumber_eq_whole_iff : wholeNumber negative kept = .whole n ↔
    if negative then kept ≠ 0 ∧ kept ≤ 0x8000000000000000 ∧ n = -(kept : Int)
    else n = kept := by
  unfold wholeNumber
  cases negative with
  | false => simp [eq_comm]
  | true =>
    by_cases hreal : kept = 0 ∨ 0x8000000000000000 < kept
    · simp [hreal]
      omega
    · simp [hreal]
      omega

/-- A fraction or an exponent makes a number no whole one. -/
theorem afterDigits_eq_whole_iff : afterDigits negative kept cs = .ok (.whole n, []) ↔
    cs = [] ∧ wholeNumber negative kept = .whole n := by
  unfold afterDigits
  split
  · rename_i hgoes
    constructor
    · intro h
      obtain ⟨found, -, hpair⟩ := Results.map_eq_ok_iff.mp h
      cases hpair
    · rintro ⟨rfl, -⟩
      cases hgoes
  · simp [and_comm]

/-- Digits without a fraction and an exponent are read as a whole number if their value fits. -/
theorem unsignedNumber_eq_whole_iff {token : List Char} (h : IsUnsigned token) :
    unsignedNumber negative token = .ok (.whole n, []) ↔ ∃ m, digitsValue? token = some m ∧
      m < 0x10000000000000000 ∧ wholeNumber negative m = .whole n := by
  simp only [digitsValue?_eq_some_iff]
  cases h with
  | @zero cs hfraction =>
    have hnodigit : NoDigit cs := by simpa using hfraction.noDigit_append stops_nil
    rw [unsignedNumber_zero, headD_isDigit_iff.mpr hnodigit, if_neg Bool.false_ne_true,
      afterDigits_eq_whole_iff]
    constructor
    · rintro ⟨rfl, hwhole⟩
      refine ⟨0, ⟨fun c hc => ?_, rfl⟩, by decide, hwhole⟩
      rw [List.mem_singleton.mp hc]
      rfl
    · rintro ⟨m, ⟨hdigits, rfl⟩, -, hwhole⟩
      cases cs with
      | nil => exact ⟨rfl, hwhole⟩
      | cons c cs =>
        have hdigit := hdigits c (by simp)
        rw [hnodigit.not_isDigit] at hdigit
        cases hdigit
  | @digits c cs hc hne hdigits =>
    have hfirst : addDigit 0 c = digitValue c := by rw [addDigit_eq, Nat.zero_mul, Nat.zero_add]
    have hvalue : digitValue c < 0x10000000000000000 := by
      simp only [Char.isDigit, Bool.and_eq_true, decide_eq_true_eq, UInt32.le_iff_toNat_le] at hc
      have hlast : c.toNat ≤ 57 := hc.2
      rw [digitValue]
      omega
    rw [unsignedNumber_digit hc hne]
    simp only [List.foldl_cons, hfirst, List.mem_cons, forall_eq_or_imp]
    constructor
    · intro h
      split at h
      · obtain ⟨found, -, hpair⟩ := Results.map_eq_ok_iff.mp h
        cases hpair
      · obtain ⟨hall, hwhole⟩ := afterDigits_eq_whole_iff.mp h
        obtain ⟨hds, hkept, hfits⟩ := fits_of_absorb hvalue hall
        exact ⟨_, ⟨⟨hc, hds⟩, hkept⟩, hfits, hwhole⟩
    · rintro ⟨m, ⟨⟨-, hds⟩, rfl⟩, hfits, hwhole⟩
      have hend : ¬(([] : List Char).headD ' ').isDigit = true := by decide
      rw [absorb_of_fits hds hfits, if_neg hend, afterDigits_eq_whole_iff]
      exact ⟨rfl, hwhole⟩

end

theorem numberOf?_eq_some_iff {token : List Char} {n : Number} :
    numberOf? token = some n ↔ readNumber token = .ok (n, []) := by
  unfold numberOf?
  split
  · rename_i hread
    simp [hread]
  · rename_i hno
    simp only [reduceCtorEq, false_iff]
    exact hno n

/-- **A number is read as a whole one exactly if it spells one that fits 64 bits.** -/
theorem numberOf?_eq_whole_iff {token : List Char} {n : Int} (h : IsNumber token) :
    numberOf? token = some (.whole n) ↔
      wholeOf? token = some n ∧ -0x8000000000000000 ≤ n ∧ n < 0x10000000000000000 := by
  rw [numberOf?_eq_some_iff]
  cases h with
  | positive hunsigned =>
    have hread : readNumber token = unsignedNumber false token := by
      cases hunsigned with
      | zero => rfl
      | digits hc =>
        have hminus := ne_of_isDigit hc (by decide : ('-').isDigit = false)
        rw [readNumber]
        simpa using hminus
    have hwhole : wholeOf? token = (digitsValue? token).map Int.ofNat := by
      cases hunsigned with
      | zero => rfl
      | digits hc =>
        have hminus := ne_of_isDigit hc (by decide : ('-').isDigit = false)
        rw [wholeOf?]
        simpa using hminus
    rw [hread, hwhole, unsignedNumber_eq_whole_iff hunsigned]
    simp only [wholeNumber_eq_whole_iff, Option.map_eq_some_iff]
    constructor
    · rintro ⟨m, hm, hfits, rfl⟩
      exact ⟨⟨m, hm, rfl⟩, by omega, by omega⟩
    · rintro ⟨⟨m, hm, rfl⟩, -, hfits⟩
      exact ⟨m, hm, Int.ofNat_lt.mp hfits, rfl⟩
  | @negative cs hunsigned =>
    rw [show readNumber ('-' :: cs) = unsignedNumber true cs from rfl,
      unsignedNumber_eq_whole_iff hunsigned]
    simp only [wholeNumber_eq_whole_iff, wholeOf?, Option.bind_eq_some_iff]
    constructor
    · rintro ⟨m, hm, -, hzero, hfits, rfl⟩
      exact ⟨⟨m, hm, if_neg hzero⟩, by omega, by omega⟩
    · rintro ⟨⟨m, hm, hsome⟩, hfits, -⟩
      split at hsome
      · cases hsome
      · rename_i hzero
        cases hsome
        exact ⟨m, hm, by omega, hzero, by omega, rfl⟩

end Lookout.Json
