import Lookout.Text.Reading
/-!
# Reading blanks and numbers

What a text is without the blanks around it (`trim_spec`), when nothing is left of it
(`trim_eq_empty_iff`), and which texts are read as a whole number (`whole?_eq_some_iff`).
-/

namespace Lookout.Text

/-! ### Blanks -/

/-- A list is what is dropped at its start, and the rest. -/
theorem exists_dropWhile {α : Type} (p : α → Bool) (cs : List α) :
    ∃ front, (∀ c ∈ front, p c = true) ∧ cs = front ++ cs.dropWhile p :=
  ⟨cs.takeWhile p, List.all_eq_true.mp List.all_takeWhile, List.takeWhile_append_dropWhile.symm⟩

/-- What is left does not start with something that is dropped. -/
theorem not_of_head?_dropWhile {α : Type} {p : α → Bool} {cs : List α} {c : α}
    (h : (cs.dropWhile p).head? = some c) : p c = false := by
  have hnot := List.head?_dropWhile_not p cs
  rw [h] at hnot
  simpa using hnot

/-- A list is what is stripped at its ends, and the rest between them, which neither starts nor ends
with something that is stripped. -/
theorem stripEnds_spec {α : Type} (p : α → Bool) (cs : List α) :
    (∃ front back, (∀ c ∈ front ++ back, p c = true) ∧ cs = front ++ stripEnds p cs ++ back) ∧
      (∀ c, (stripEnds p cs).head? = some c → p c = false) ∧
      ∀ c, (stripEnds p cs).getLast? = some c → p c = false := by
  obtain ⟨front, hfront, hcs⟩ := exists_dropWhile p cs
  obtain ⟨back, hback, hrest⟩ := exists_dropWhile p (cs.dropWhile p).reverse
  have hinner : cs.dropWhile p = stripEnds p cs ++ back.reverse := by
    rw [← List.reverse_inj, hrest]
    simp [stripEnds]
  refine ⟨⟨front, back.reverse, ?_, ?_⟩, ?_, ?_⟩
  · intro c hc
    rcases List.mem_append.mp hc with hin | hin
    · exact hfront c hin
    · exact hback c (List.mem_reverse.mp hin)
  · rw [List.append_assoc, ← hinner]
    exact hcs
  · intro c hc
    refine not_of_head?_dropWhile (?_ : (cs.dropWhile p).head? = some c)
    rw [hinner, List.head?_append, hc]
    rfl
  · intro c hc
    unfold stripEnds at hc
    rw [List.getLast?_reverse] at hc
    exact not_of_head?_dropWhile hc

/-- **A text without the blanks around it**: it is the text up to blanks at either end, and it does
not start or end with a blank. -/
theorem trim_spec (text : String) :
    (∃ front back, (∀ c ∈ front ++ back, isBlank c = true) ∧
        text.toList = front ++ (trim text).toList ++ back) ∧
      (∀ c, (trim text).toList.head? = some c → isBlank c = false) ∧
      ∀ c, (trim text).toList.getLast? = some c → isBlank c = false := by
  have h := stripEnds_spec isBlank text.toList
  unfold trim
  rw [String.toList_ofList]
  exact h

/-- Nothing is left of a text of blanks, and of no other. -/
theorem trim_eq_empty_iff {text : String} :
    trim text = "" ↔ ∀ c ∈ text.toList, isBlank c = true := by
  obtain ⟨⟨front, back, hends, htext⟩, hhead, _⟩ := trim_spec text
  rw [← String.toList_eq_nil_iff]
  constructor
  · intro hnil c hc
    rw [htext, hnil, List.append_nil] at hc
    exact hends c hc
  · intro hall
    cases hrest : (trim text).toList with
    | nil => rfl
    | cons c cs =>
      have hblank : isBlank c = true := hall c (by rw [htext, hrest]; simp)
      rw [hhead c (by rw [hrest]; rfl)] at hblank
      cases hblank

/-- Something is left of a text that is more than blanks. -/
theorem trim_ne_empty_iff {text : String} :
    trim text ≠ "" ↔ ∃ c ∈ text.toList, isBlank c = false := by
  rw [Ne, trim_eq_empty_iff]
  simp

/-! ### Numbers -/

/-- One more digit of a number. -/
def addDigit (value : Nat) (c : Char) : Nat := 10 * value + (c.toNat - '0'.toNat)

/-- A text is a number below a bound: ASCII digits, at least one, after an optional plus sign. -/
def Numeral (bound : Nat) (text : String) (n : Nat) : Prop :=
  ∃ digits : List Char, (text.toList = digits ∨ text.toList = '+' :: digits) ∧ digits ≠ [] ∧
    (∀ c ∈ digits, c.isDigit = true) ∧ digits.foldl addDigit 0 = n ∧ n < bound

/-- Digits are read one after the other, the highest first; anything else ends the reading. -/
theorem digitsValue?_eq_some_iff {cs : List Char} {n : Nat} :
    digitsValue? cs = some n ↔ (∀ c ∈ cs, c.isDigit = true) ∧ cs.foldl addDigit 0 = n := by
  let step (acc : Option Nat) (c : Char) : Option Nat :=
    acc.bind fun n => if c.isDigit then some (10 * n + (c.toNat - 48)) else none
  have hstuck : ∀ cs : List Char, cs.foldl step none = none := by
    intro cs
    induction cs with
    | nil => rfl
    | cons c cs ih => exact ih
  have hread : ∀ (cs : List Char) (value : Nat), cs.foldl step (some value) = some n ↔
      (∀ c ∈ cs, c.isDigit = true) ∧ cs.foldl addDigit value = n := by
    intro cs
    induction cs with
    | nil => simp
    | cons c cs ih =>
      intro value
      rcases hdigit : c.isDigit with _ | _
      · have hnone : step (some value) c = none := by simp [step, hdigit]
        rw [List.foldl_cons, hnone, hstuck]
        simp [hdigit]
      · have hsome : step (some value) c = some (addDigit value c) := by
          simp [step, hdigit, addDigit]
        rw [List.foldl_cons, hsome, ih, List.foldl_cons]
        simp [hdigit]
  exact hread cs 0

/-- **The texts that are read as a number** are the numerals of that number. -/
theorem whole?_eq_some_iff {bound n : Nat} {text : String} :
    whole? bound text = some n ↔ Numeral bound text n := by
  -- what follows an optional plus sign has to be read
  have hdigits : ∀ digits : List Char,
      (if digits.isEmpty then none else (digitsValue? digits).filter (· < bound)) = some n ↔
        digits ≠ [] ∧ (∀ c ∈ digits, c.isDigit = true) ∧ digits.foldl addDigit 0 = n ∧ n < bound := by
    intro digits
    rw [← and_assoc (b := digits.foldl addDigit 0 = n), ← digitsValue?_eq_some_iff]
    cases digits with
    | nil => simp
    | cons c cs => simp [Option.filter_eq_some_iff]
  unfold whole? Numeral
  rw [hdigits]
  split
  case h_1 cs htext =>
    rw [htext]
    constructor
    · intro h
      exact ⟨cs, Or.inr rfl, h⟩
    · rintro ⟨digits, rfl | hplus, h⟩
      · -- a plus sign is no digit
        have hsign := h.2.1 '+' List.mem_cons_self
        cases hsign
      · cases hplus
        exact h
  case h_2 hno =>
    constructor
    · intro h
      exact ⟨text.toList, Or.inl rfl, h⟩
    · rintro ⟨digits, rfl | hplus, h⟩
      · exact h
      · exact absurd hplus (hno digits)

end Lookout.Text
