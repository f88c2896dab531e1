import Lookout.Proofs.Decimal.Rounding
import Lookout.Proofs.Json.Writing
/-!
# Written numbers are read

A finite number is written as a number of JSON that has a value (`exists_written_number`): its
digits fit the significand of the reader, and multiplied by their power of ten they are a finite
number again.  So what is written in place of a number is `null` exactly if the number is not
finite.
-/

namespace Lookout.Json

open Lookout.Text Lookout.Decimal

variable {negative : Bool} {kept : Nat} {shift : Int} {cs : List Char}

/-! ### Reading to the end -/

/-- Everything is read. -/
def TakesAll {α : Type} (result : Except Error (α × List Char)) : Prop := ∃ x, result = .ok (x, [])

theorem TakesAll.map {α β : Type} {result : Except Error (α × List Char)} {f : α → β}
    (h : TakesAll result) : TakesAll (result.map fun found => (f found.1, found.2)) := by
  obtain ⟨x, rfl⟩ := h
  exact ⟨f x, rfl⟩

/-- Digits that fit are absorbed up to where they end. -/
theorem absorb_append {n count : Nat} {ds : List Char} (hds : ∀ d ∈ ds, d.isDigit = true)
    (hfits : ds.foldl addDigit n < 0x10000000000000000) (hcs : NoDigit cs) :
    absorb n count (ds ++ cs) = (ds.foldl addDigit n, count + ds.length, cs) := by
  obtain ⟨es, hes, -, -, -, hmore⟩ := exists_absorb n count ds
  rw [absorb_of_fits hds hfits] at hes hmore
  rw [List.append_nil] at hes
  subst hes
  exact hmore cs (hcs.absorbsNone _)

theorem passDigits_digits {ds : List Char} (hds : ∀ d ∈ ds, d.isDigit = true) (n : Nat) :
    passDigits n ds = (n + ds.length, []) := by
  induction ds generalizing n with
  | nil => rfl
  | cons d ds ih =>
    rw [passDigits, if_pos (hds d List.mem_cons_self),
      ih (fun d h => hds d (List.mem_cons_of_mem _ h)), List.length_cons, Nat.add_assoc,
      Nat.add_comm 1]

/-- The digits of an exponent are read up to the end, and it is kept if it is not too large. -/
theorem exponentDigits_digits {ds : List Char} (hds : ∀ d ∈ ds, d.isDigit = true) (n : Nat) :
    exponentDigits n ds = (some (ds.foldl addDigit n), []) ∨
      0x80000000 ≤ ds.foldl addDigit n ∧ exponentDigits n ds = (none, []) := by
  induction ds generalizing n with
  | nil => exact Or.inl rfl
  | cons d ds ih =>
    have hmore : ∀ d ∈ ds, d.isDigit = true := fun d h => hds d (List.mem_cons_of_mem _ h)
    rw [exponentDigits, if_pos (hds d List.mem_cons_self), List.foldl_cons, ← addDigit_eq]
    dsimp only
    split
    · exact ih hmore _
    · rename_i hlarge
      refine Or.inr ⟨(Nat.le_of_not_lt hlarge).trans (le_foldl_addDigit ds _), ?_⟩
      rw [passDigits_digits hmore]

/-! ### Values -/

/-- Dividing by a power of ten always gives a value. -/
theorem scaled_of_neg (negative : Bool) (kept : Nat) {e : Int} (he : e < 0) :
    ∃ y, scaled negative kept e = .ok y := by
  unfold scaled
  dsimp only
  rw [if_pos he]
  exact ⟨_, rfl⟩

/-- Multiplying by one gives a value if the product is finite. -/
theorem scaled_of_finite (negative : Bool) {kept p : Nat} (hp : p < 309)
    (h : (Float.ofNat kept * powerOfTen p).isInf = false) :
    ∃ y, scaled negative kept p = .ok y := by
  unfold scaled
  dsimp only
  rw [if_neg (by omega), if_neg (by omega), Int.toNat_natCast, if_neg (by rw [h]; decide)]
  exact ⟨_, rfl⟩

/-- How an exponent is written, from its letter on. -/
def exponentChars (e : Int) : List Char :=
  'e' :: (if e < 0 then '-' else '+') :: Nat.toDigits 10 e.natAbs

theorem toList_exponent (e : Int) :
    ("e" ++ (if e < 0 then "" else "+") ++ toString e).toList = exponentChars e := by
  unfold exponentChars
  cases e with
  | ofNat n =>
    rw [if_neg (by simp), if_neg (by simp), String.toList_append]
    exact congrArg ('e' :: '+' :: ·) (toList_toString n)
  | negSucc n =>
    rw [if_pos (Int.negSucc_lt_zero n), if_pos (Int.negSucc_lt_zero n)]
    show ("e" ++ "" ++ ("-" ++ toString (n + 1))).toList = _
    simp only [String.toList_append, toList_toString]
    rfl

/-- An exponent that is kept gives what it gives with its sign. -/
theorem exponentOf_some (negative : Bool) (kept : Nat) (shift e : Int) :
    exponentOf negative kept shift (decide (e < 0)) (some e.natAbs) =
      scaled negative kept (shift + e) := by
  unfold exponentOf
  dsimp only
  by_cases hneg : e < 0
  · rw [if_pos (by simpa using hneg)]
    congr 1
    omega
  · rw [if_neg (by simpa using hneg)]
    congr 1
    omega

/-- **An exponent that is written is read** if there is a value with it. -/
theorem takesAll_exponent {e : Int} (he : e < 0x80000000)
    (h : ∃ y, scaled negative kept (shift + e) = .ok y) :
    TakesAll (withExponent negative kept shift (exponentChars e)) := by
  show TakesAll (exponentPart negative kept shift _)
  have hsign (ds : List Char) : splitSign ((if e < 0 then '-' else '+') :: ds) =
      (decide (e < 0), ds) := by
    split <;> rename_i hneg <;> simp [splitSign, hneg]
  rw [exponentPart_eq, hsign]
  have hall : ∀ d ∈ Nat.toDigits 10 e.natAbs, d.isDigit = true := fun d hd => isDigit_of_mem hd
  have hvalue := foldl_toDigits e.natAbs
  cases hds : Nat.toDigits 10 e.natAbs with
  | nil => exact absurd hds Nat.toDigits_ne_nil
  | cons d ds =>
    rw [hds] at hall hvalue
    rw [List.foldl_cons, addDigit_eq, Nat.zero_mul, Nat.zero_add] at hvalue
    unfold exponentValue
    dsimp only
    rw [if_pos (hall d List.mem_cons_self)]
    obtain hread | ⟨hlarge, hread⟩ :=
      exponentDigits_digits (fun d hd => hall d (List.mem_cons_of_mem _ hd)) (digitValue d)
    · obtain ⟨y, hy⟩ := h
      rw [hread, hvalue, exponentOf_some, hy]
      exact ⟨y, rfl⟩
    · -- only what is to be divided can have such an exponent
      have hneg : e < 0 := by omega
      rw [hread, decide_eq_true hneg]
      unfold exponentOf
      dsimp only
      rw [if_neg (by simp)]
      exact ⟨_, rfl⟩

/-! ### The digits around the point -/

/-- Digits that may stand before a point. -/
structure WholePart (ds : List Char) : Prop where
  /-- There are digits only. -/
  isDigit : ∀ d ∈ ds, d.isDigit = true
  /-- There is a digit, and it is no zero if others follow. -/
  begins : ∃ c cs, ds = c :: cs ∧ (c = '0' → cs = [])

/-- Digits before a point are kept if they fit. -/
theorem unsignedNumber_append {ds : List Char} (hds : WholePart ds)
    (hfits : ds.foldl addDigit 0 < 0x10000000000000000) (hcs : NoDigit cs) :
    unsignedNumber negative (ds ++ cs) = afterDigits negative (ds.foldl addDigit 0) cs := by
  have hno := headD_isDigit_iff.mpr hcs
  obtain ⟨c, es, rfl, hzero⟩ := hds.begins
  have hmore : ∀ d ∈ es, d.isDigit = true := fun d hd => hds.isDigit d (List.mem_cons_of_mem _ hd)
  rw [List.cons_append]
  by_cases hc : c = '0'
  · subst hc
    rw [hzero rfl, List.nil_append, unsignedNumber_zero, hno, if_neg Bool.false_ne_true]
    rfl
  · rw [unsignedNumber_digit (hds.isDigit c List.mem_cons_self) hc]
    rw [List.foldl_cons, addDigit_eq, Nat.zero_mul, Nat.zero_add] at hfits ⊢
    rw [absorb_append hmore hfits hcs]
    dsimp only
    rw [hno, if_neg Bool.false_ne_true]

/-- **Digits around a point are read** if there is a value with what follows them. -/
theorem takesAll_point {ds fs : List Char} (hds : WholePart ds) (hne : fs ≠ [])
    (hfs : ∀ d ∈ fs, d.isDigit = true)
    (hfits : (ds ++ fs).foldl addDigit 0 < 0x10000000000000000) (hcs : NoDigit cs)
    (h : TakesAll (withExponent negative ((ds ++ fs).foldl addDigit 0) (-(fs.length : Int)) cs)) :
    TakesAll (unsignedNumber negative (ds ++ '.' :: (fs ++ cs))) := by
  rw [List.foldl_append] at hfits h
  have hpoint : NoDigit ('.' :: (fs ++ cs)) := by
    intro c hc
    cases hc
    rfl
  rw [unsignedNumber_append hds ((le_foldl_addDigit fs _).trans_lt hfits) hpoint]
  unfold afterDigits
  rw [if_pos (show goesOn ('.' :: (fs ++ cs)) = true from rfl)]
  refine TakesAll.map (f := Number.real) ?_
  show TakesAll (fractionPart negative _ ((0 : Nat) : Int) (fs ++ cs))
  have hlength : 0 + fs.length ≠ 0 := by
    rw [Nat.zero_add]
    exact mt List.length_eq_zero_iff.mp hne
  unfold fractionPart
  rw [absorb_append hfs hfits hcs]
  dsimp only
  have hshift : ((0 : Nat) : Int) - ((0 + fs.length : Nat) : Int) = -(fs.length : Int) := by omega
  rw [hshift]
  cases cs with
  | nil =>
    dsimp only
    rw [if_neg hlength]
    exact h
  | cons c cs =>
    dsimp only
    rw [hcs.not_isDigit, if_neg Bool.false_ne_true, if_neg hlength]
    exact h

/-! ### Positional notation -/

theorem foldl_zeros (n k : Nat) :
    (List.replicate k '0').foldl addDigit n = n * 10 ^ k := by
  induction k generalizing n with
  | zero => exact (Nat.mul_one n).symm
  | succ k ih =>
    rw [List.replicate_succ, List.foldl_cons, ih, addDigit_eq, Nat.pow_succ']
    show (n * 10 + 0) * 10 ^ k = n * (10 * 10 ^ k)
    rw [Nat.add_zero, Nat.mul_assoc]

theorem isDigit_zeros {k : Nat} {d : Char} (h : d ∈ List.replicate k '0') : d.isDigit = true := by
  rw [List.eq_of_mem_replicate h]
  rfl

theorem toList_pushn (s : String) (c : Char) (k : Nat) :
    (s.pushn c k).toList = s.toList ++ List.replicate k c := by
  rw [String.pushn_eq_repeat_push]
  induction k with
  | zero => simp [Nat.repeat]
  | succ k ih =>
    rw [Nat.repeat, String.toList_push, ih, List.append_assoc, ← List.replicate_succ']

/-- The digits of a number may stand before a point, and so may zeros behind them. -/
theorem wholePart_toDigits_append {n : Nat} {es : List Char} (hes : ∀ e ∈ es, e.isDigit = true)
    (h : n ≠ 0 ∨ es = []) : WholePart (Nat.toDigits 10 n ++ es) := by
  refine ⟨fun d hd => (List.mem_append.mp hd).elim isDigit_of_mem (hes d), ?_⟩
  by_cases hn : n = 0
  · rw [h.resolve_left (not_not_intro hn), hn, Nat.toDigits_zero]
    exact ⟨'0', [], rfl, fun _ => rfl⟩
  · obtain ⟨c, cs, hcs, hc⟩ := toDigits_eq_cons hn
    exact ⟨c, cs ++ es, by rw [hcs]; rfl, fun hzero => absurd hzero hc⟩

/-- Some first digits may stand before a point if all may. -/
theorem WholePart.take {ds : List Char} (h : WholePart ds) {k : Nat} (hk : 0 < k) :
    WholePart (ds.take k) := by
  refine ⟨fun d hd => h.isDigit d (List.mem_of_mem_take hd), ?_⟩
  obtain ⟨c, cs, rfl, hc⟩ := h.begins
  obtain ⟨j, rfl⟩ := Nat.exists_eq_add_of_lt hk
  refine ⟨c, cs.take j, by simp, fun hzero => ?_⟩
  rw [hc hzero, List.take_nil]

/-- The digits of a number with zeros before them that make them one more than some places. -/
def padded (n places : Nat) : List Char :=
  List.replicate (places + 1 - (Nat.toDigits 10 n).length) '0' ++ Nat.toDigits 10 n

theorem toList_padZeros (n places : Nat) :
    (padZeros (places + 1) (toString n)).toList = padded n places := by
  unfold padZeros padded
  rw [String.toList_append, toList_pushn, toList_toString, ← String.length_toList, toList_toString]
  rfl

theorem length_padded (n places : Nat) : places < (padded n places).length := by
  unfold padded
  rw [List.length_append, List.length_replicate]
  omega

theorem isDigit_padded {n places : Nat} {c : Char} (h : c ∈ padded n places) : c.isDigit = true :=
  (List.mem_append.mp h).elim isDigit_zeros isDigit_of_mem

theorem foldl_padded (n places : Nat) : (padded n places).foldl addDigit 0 = n := by
  unfold padded
  rw [List.foldl_append, foldl_zeros, Nat.zero_mul, foldl_toDigits]

/-- What is not in the places may stand before the point. -/
theorem wholePart_padded (n places : Nat) :
    WholePart ((padded n places).take ((padded n places).length - places)) := by
  have hlength := length_padded n places
  unfold padded at hlength ⊢
  by_cases hfew : (Nat.toDigits 10 n).length ≤ places
  · -- one of the zeros stands before the point
    obtain ⟨k, hk⟩ : ∃ k, places + 1 - (Nat.toDigits 10 n).length = k + 1 :=
      ⟨places - (Nat.toDigits 10 n).length, by omega⟩
    rw [List.length_append, List.length_replicate, hk,
      show k + 1 + (Nat.toDigits 10 n).length - places = 1 by omega, List.replicate_succ,
      List.cons_append, List.take_succ_cons, List.take_zero]
    exact ⟨by simp, '0', [], rfl, fun _ => rfl⟩
  · have hwhole := @wholePart_toDigits_append n [] nofun (Or.inr rfl)
    rw [List.append_nil] at hwhole
    rw [show places + 1 - (Nat.toDigits 10 n).length = 0 by omega, List.replicate_zero,
      List.nil_append]
    exact hwhole.take (by omega)

/-- **Positional notation** is digits around a point; they spell the digits that it stands for, with
further zeros if there are any. -/
theorem exists_toList_positional {d : Decimal.Digits} (hd : d.digits ≠ 0 ∨ d.exponent ≤ 0) :
    ∃ ds fs, (positional d).toList = ds ++ '.' :: fs ∧ WholePart ds ∧ fs ≠ [] ∧
      (∀ c ∈ fs, c.isDigit = true) ∧
      (ds ++ fs).foldl addDigit 0 =
        if 0 ≤ d.exponent then d.digits * 10 ^ (d.exponent.toNat + 1) else d.digits := by
  unfold positional
  dsimp only
  split
  · rename_i hexponent
    refine ⟨Nat.toDigits 10 d.digits ++ List.replicate d.exponent.toNat '0', List.replicate 1 '0',
      ?_, ?_, List.cons_ne_nil _ _, fun c hc => isDigit_zeros hc, ?_⟩
    · rw [String.toList_append, String.toList_append, toList_toString, toList_pushn]
      rfl
    · refine wholePart_toDigits_append (fun e he => isDigit_zeros he) (hd.imp_right fun hle => ?_)
      rw [show d.exponent.toNat = 0 by omega]
      rfl
    · rw [List.append_assoc, List.replicate_append_replicate, List.foldl_append, foldl_toDigits,
        foldl_zeros]
  · rename_i hexponent
    rw [← String.length_toList, toList_padZeros]
    generalize hplaces : (-d.exponent).toNat = places
    have hlength := length_padded d.digits places
    refine ⟨(padded d.digits places).take ((padded d.digits places).length - places),
      (padded d.digits places).drop ((padded d.digits places).length - places), ?_,
      wholePart_padded _ _, ?_, fun c hc => isDigit_padded (List.mem_of_mem_drop hc), ?_⟩
    · simp only [String.toList_append, String.toList_ofList, List.append_assoc]
      rfl
    · refine fun hnil => absurd (congrArg List.length hnil) ?_
      rw [List.length_drop, List.length_nil]
      omega
    · rw [List.take_append_drop, foldl_padded]

/-- Positional notation is read if its digits fit. -/
theorem takesAll_positional {d : Decimal.Digits} (hd : d.digits ≠ 0 ∨ d.exponent ≤ 0)
    (hdigits : d.digits ≤ 10 ^ 17)
    (hleading : d.exponent + digitCount d.digits ≤ 16) :
    TakesAll (unsignedNumber negative (positional d).toList) := by
  obtain ⟨ds, fs, htext, hds, hne, hfs, hvalue⟩ := exists_toList_positional hd
  have hfits : (ds ++ fs).foldl addDigit 0 < 0x10000000000000000 := by
    rw [hvalue]
    split
    · rename_i hexponent
      have hlt := lt_pow_digitCount d.digits
      calc d.digits * 10 ^ (d.exponent.toNat + 1)
          ≤ 10 ^ digitCount d.digits * 10 ^ (d.exponent.toNat + 1) :=
            Nat.mul_le_mul_right _ hlt.le
        _ = 10 ^ (digitCount d.digits + (d.exponent.toNat + 1)) := (Nat.pow_add _ _ _).symm
        _ ≤ 10 ^ 17 := Nat.pow_le_pow_right (by decide) (by omega)
        _ < 0x10000000000000000 := by decide
    · exact hdigits.trans_lt (by decide)
  have hcount : 0 < fs.length := List.length_pos_iff.mpr hne
  rw [htext, ← List.append_nil fs]
  refine takesAll_point hds hne hfs hfits nofun ?_
  obtain ⟨y, hy⟩ := scaled_of_neg negative ((ds ++ fs).foldl addDigit 0)
    (by omega : -(fs.length : Int) < 0)
  have hend : ∀ c ∈ ([] : List Char).head?, c ≠ 'e' ∧ c ≠ 'E' := nofun
  rw [withExponent_of_ne hend, hy]
  exact ⟨y, rfl⟩

/-! ### Scientific notation -/

/-- Some digits with a point behind the first one, if there are further ones. -/
def mantissaChars : List Char → List Char
  | first :: second :: rest => first :: '.' :: second :: rest
  | short => short

theorem toList_scientific (d : Decimal.Digits) : (scientific d).toList =
    mantissaChars (Nat.toDigits 10 d.digits) ++
      exponentChars (d.exponent + (Nat.toDigits 10 d.digits).length - 1) := by
  unfold scientific
  dsimp only
  rw [toList_toString, ← toList_exponent]
  simp only [String.toList_append, List.append_assoc]
  refine congrArg (· ++ _) ?_
  rcases Nat.toDigits 10 d.digits with _ | ⟨first, _ | ⟨second, rest⟩⟩ <;>
    exact String.toList_ofList

/-- Digits with a point behind the first one are read if there is a value with the exponent. -/
theorem takesAll_mantissa {ds : List Char} {e : Int} (hds : WholePart ds)
    (hfits : ds.foldl addDigit 0 < 0x10000000000000000)
    (h : TakesAll (withExponent negative (ds.foldl addDigit 0) (-(ds.length - 1 : Int))
      (exponentChars e))) :
    TakesAll (unsignedNumber negative (mantissaChars ds ++ exponentChars e)) := by
  have hnodigit : NoDigit (exponentChars e) := by
    intro c hc
    cases hc
    rfl
  obtain ⟨c, cs, rfl, -⟩ := hds.begins
  cases cs with
  | nil =>
    show TakesAll (unsignedNumber negative ([c] ++ exponentChars e))
    rw [unsignedNumber_append hds hfits hnodigit]
    exact h.map
  | cons c' cs =>
    have hfirst : WholePart [c] :=
      ⟨fun d hd => hds.isDigit d (by simp_all), c, [], rfl, fun _ => rfl⟩
    refine takesAll_point hfirst (List.cons_ne_nil c' cs)
      (fun d hd => hds.isDigit d (List.mem_cons_of_mem _ hd)) hfits hnodigit ?_
    have hlength : ((c :: c' :: cs).length - 1 : Int) = (c' :: cs).length := by
      rw [List.length_cons]
      omega
    rwa [hlength] at h

/-- **Scientific notation** is read if there is a value with its digits and its exponent. -/
theorem takesAll_scientific {d : Decimal.Digits} (hdigits : d.digits ≤ 10 ^ 17)
    (hexponent : d.exponent < 309) (h : ∃ y, scaled negative d.digits d.exponent = .ok y) :
    TakesAll (unsignedNumber negative (scientific d).toList) := by
  have hlength : (Nat.toDigits 10 d.digits).length ≤ 18 :=
    (Nat.length_toDigits_le_iff (by decide) (by decide)).mpr (hdigits.trans_lt (by decide))
  have hwhole := @wholePart_toDigits_append d.digits [] nofun (Or.inr rfl)
  rw [List.append_nil] at hwhole
  rw [toList_scientific]
  refine takesAll_mantissa hwhole ?_ ?_
  · rw [foldl_toDigits]
    exact hdigits.trans_lt (by decide)
  · rw [foldl_toDigits]
    refine takesAll_exponent (by omega) ?_
    -- the exponent is written for the point behind the first digit
    have hshift : -((Nat.toDigits 10 d.digits).length - 1 : Int) +
        (d.exponent + (Nat.toDigits 10 d.digits).length - 1) = d.exponent := by omega
    rwa [hshift]

/-! ### Numbers -/

/-- The sign of a number that is written. -/
theorem readNumber_append (b : Binary) {ds : List Char}
    (h : TakesAll (unsignedNumber b.negative ds)) :
    TakesAll (readNumber ((if b.negative then "-" else "").toList ++ ds)) := by
  cases hnegative : b.negative with
  | true =>
    rw [hnegative] at h
    exact h
  | false =>
    rw [hnegative] at h
    show TakesAll (readNumber ds)
    obtain ⟨n, hn⟩ := h
    cases ds with
    | nil => cases hn
    | cons c cs =>
      have hdigit : ('-').isDigit = false := by decide
      have hminus := ne_of_isDigit (isDigit_of_unsignedNumber hn) hdigit
      refine ⟨n, ?_⟩
      rw [readNumber]
      · exact hn
      · simpa using hminus

/-- **Finite numbers are written as numbers that have a value.** -/
theorem takesAll_finiteNumber {b : Binary} (hlt : b.mantissa < 2 ^ 53) (he : b.exponent ≤ 971) :
    TakesAll (readNumber (finiteNumber b).toList) := by
  unfold finiteNumber
  dsimp only
  rw [String.toList_append]
  refine readNumber_append b ?_
  by_cases hzero : b.mantissa = 0
  · have hshortest : b.shortest = ⟨0, 0⟩ := if_pos hzero
    rw [hshortest, if_pos (by decide)]
    exact takesAll_positional (Or.inr le_rfl) (by decide) (by decide)
  · have hm : 0 < b.mantissa := Nat.pos_of_ne_zero hzero
    obtain ⟨hpos, hdigits, -⟩ := Binary.shortest_spec hm hlt
    split
    · rename_i hposition
      have hhighest : b.shortest.exponent + digitCount b.shortest.digits - 1 < 16 := hposition.2
      exact takesAll_positional (Or.inl (by omega)) hdigits (by omega)
    · by_cases hneg : b.shortest.exponent < 0
      · exact takesAll_scientific hdigits (by omega) (scaled_of_neg _ _ hneg)
      · obtain ⟨p, hp⟩ := Int.eq_ofNat_of_zero_le (Int.not_lt.mp hneg)
        obtain ⟨hlarge, hfinite⟩ := Binary.isInf_shortest hm hlt he hp
        refine takesAll_scientific hdigits (by omega) ?_
        rw [hp]
        exact scaled_of_finite _ hlarge hfinite

/-- **In place of a number** there is `null` if it is not finite, and otherwise a number that has a
value. -/
theorem exists_written_number (x : Float) : ∃ v : Value, (number x).toList = v.chars ∧
    (v.isNull = true ↔ x.isFinite = false) ∧ (x.isFinite = true → v.number?.isSome) := by
  unfold number
  split
  · rename_i b hb
    obtain ⟨hlt, he⟩ := bounds_of_read hb
    have hfinite : x.isFinite = true := (isFinite_iff x).mpr ⟨b, hb⟩
    obtain ⟨n, hn⟩ := takesAll_finiteNumber hlt he
    obtain ⟨token, htoken, hnumber, -⟩ := reads_readNumber _ _ _ hn
    rw [List.append_nil] at htoken
    refine ⟨.number token hnumber, htoken, by simp [hfinite, Value.isNull], fun _ => ?_⟩
    rw [htoken] at hn
    show (numberOf? token).isSome
    rw [numberOf?_eq_some_iff.mpr hn]
    rfl
  · rename_i hnot
    have hinfinite : x.isFinite = false := by
      rw [← Bool.not_eq_true, isFinite_iff]
      exact fun ⟨b, hb⟩ => hnot b hb
    exact ⟨.null, rfl, by simp [hinfinite, Value.isNull], by simp [hinfinite]⟩

end Lookout.Json
