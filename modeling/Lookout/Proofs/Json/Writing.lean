import Lookout.Json.Writer
import Lookout.Proofs.Json.Editing
/-!
# What is written is JSON

Whatever string is written, quotes, backslashes and control characters included, is a string of
JSON that stands for it (`exists_written_string`), and so the closing quote is the only quote that
ends it.  Natural numbers are written as whole numbers (`exists_written_whole`), and an object is
written with the members it is given, in order (`exists_written_object`).
-/

namespace Lookout.Json

/-! ### Strings -/

/-- The digits of a control character. -/
theorem hexQuad?_control : ∀ n < 0x20,
    hexQuad? ['0', '0', Nat.digitChar (n / 16), Nat.digitChar (n % 16)] = some n := by
  decide

/-- Every character is written as a piece that stands for it. -/
theorem exists_written_char (c : Char) : ∃ p : Piece, p.chars = escapeChar c ∧
    ∀ ps, decodePieces (p :: ps) = (decodePieces ps).map (c :: ·) := by
  unfold escapeChar
  split
  · exact ⟨.escape '"' rfl, rfl, fun _ => rfl⟩
  · exact ⟨.escape '\\' rfl, rfl, fun _ => rfl⟩
  · exact ⟨.escape 'b' rfl, rfl, fun _ => rfl⟩
  · exact ⟨.escape 'f' rfl, rfl, fun _ => rfl⟩
  · exact ⟨.escape 'n' rfl, rfl, fun _ => rfl⟩
  · exact ⟨.escape 'r' rfl, rfl, fun _ => rfl⟩
  · exact ⟨.escape 't' rfl, rfl, fun _ => rfl⟩
  · rename_i hquote hslash _ _ _ _ _
    split
    · rename_i hcontrol
      have hquad := hexQuad?_control c.toNat hcontrol
      refine ⟨.unit _ (by rw [hquad]; rfl), rfl, fun ps => ?_⟩
      rw [decodePieces_unit hquad (by omega) (by omega), Char.ofNat_toNat]
    · rename_i hplain
      exact ⟨.plain c ⟨hquote, hslash, Nat.le_of_not_lt hplain⟩, rfl, fun _ => rfl⟩

/-- **Every string is written as one that stands for it.** -/
theorem exists_written_string (s : String) :
    ∃ ps, (string s).toList = quoted ps ∧ textOf? ps = some s := by
  have hall : ∀ cs : List Char,
      ∃ ps, piecesChars ps = cs.flatMap escapeChar ∧ decodePieces ps = some cs := by
    intro cs
    induction cs with
    | nil => exact ⟨[], rfl, rfl⟩
    | cons c cs ih =>
      obtain ⟨p, hp, hdecode⟩ := exists_written_char c
      obtain ⟨ps, hps, hcs⟩ := ih
      refine ⟨p :: ps, ?_, ?_⟩
      · rw [piecesChars_cons, hp, hps, List.flatMap_cons]
      · rw [hdecode, hcs]
        rfl
  obtain ⟨ps, hps, hcs⟩ := hall s.toList
  refine ⟨ps, ?_, ?_⟩
  · rw [string, String.toList_ofList, ← hps]
    rfl
  · rw [textOf?, hcs, Option.map_some, String.ofList_toList]

/-! ### Natural numbers -/

/-- Only zero is written with a zero in front. -/
theorem toDigits_eq_cons {n : Nat} (hn : n ≠ 0) :
    ∃ c cs, Nat.toDigits 10 n = c :: cs ∧ c ≠ '0' := by
  induction n using Nat.strongRecOn with
  | _ n ih =>
    rw [Nat.toDigits_eq_if (by decide)]
    by_cases hlt : n < 10
    · rw [if_pos hlt]
      refine ⟨n.digitChar, [], rfl, ?_⟩
      have hdigit : ∀ n < 10, n ≠ 0 → Nat.digitChar n ≠ '0' := by decide
      exact hdigit n hlt hn
    · rw [if_neg hlt]
      obtain ⟨c, cs, hcs, hc⟩ := ih (n / 10) (by omega) (by omega)
      exact ⟨c, cs ++ [(n % 10).digitChar], by rw [hcs]; rfl, hc⟩

theorem isDigit_of_mem {n : Nat} {c : Char} (h : c ∈ Nat.toDigits 10 n) : c.isDigit = true :=
  Nat.isDigit_of_mem_toDigits (by decide) (by decide) h

/-- The digits of a number spell it. -/
theorem foldl_toDigits (n : Nat) : (Nat.toDigits 10 n).foldl Text.addDigit 0 = n :=
  Nat.ofDigitChars_toDigits (by decide) (by decide)

/-- The digits of a number may stand before a fraction. -/
theorem isUnsigned_toDigits_append {n : Nat} {cs : List Char} (h : OptionalFraction cs) :
    IsUnsigned (Nat.toDigits 10 n ++ cs) := by
  by_cases hn : n = 0
  · rw [hn, Nat.toDigits_zero]
    exact .zero h
  · obtain ⟨c, ds, hds, hc⟩ := toDigits_eq_cons hn
    have hall : ∀ d ∈ c :: ds, d.isDigit = true := by
      rw [← hds]
      exact fun d hd => isDigit_of_mem hd
    rw [hds]
    exact .digits (hall c List.mem_cons_self) hc
      (.append (fun d hd => hall d (List.mem_cons_of_mem c hd)) (.done h))

theorem toList_toString (n : Nat) : (toString n).toList = Nat.toDigits 10 n := by
  rw [Nat.toString_eq_ofList_toDigits, String.toList_ofList]

/-- **A natural number is written as a whole number**, and there is no number too large. -/
theorem exists_written_whole (n : Nat) :
    ∃ v : Value, (toString n).toList = v.chars ∧ v.whole? = some (n : Int) := by
  have hunsigned : IsUnsigned (Nat.toDigits 10 n ++ []) :=
    isUnsigned_toDigits_append (.none .none)
  rw [List.append_nil] at hunsigned
  refine ⟨.number _ (.positive hunsigned), toList_toString n, ?_⟩
  have hvalue : Text.digitsValue? (Nat.toDigits 10 n) = some n :=
    Text.digitsValue?_eq_some_iff.mpr ⟨fun c hc => isDigit_of_mem hc, foldl_toDigits n⟩
  have hwhole :
      wholeOf? (Nat.toDigits 10 n) = (Text.digitsValue? (Nat.toDigits 10 n)).map .ofNat := by
    unfold wholeOf?
    split
    · rename_i ds hds
      have hminus : ('-').isDigit = true := isDigit_of_mem (by rw [hds]; exact List.mem_cons_self)
      cases hminus
    · rfl
  show wholeOf? (Nat.toDigits 10 n) = _
  rw [hwhole, hvalue]
  rfl

/-! ### Objects -/

/-- A new line, indented. -/
def indent : Blanks := ⟨['\n', ' ', ' '], by simp [isBlank]⟩

/-- A space. -/
def space : Blanks := ⟨[' '], by simp [isBlank]⟩

/-- A new line. -/
def newline : Blanks := ⟨['\n'], by simp [isBlank]⟩

/-- How a member is written on its line. -/
def lineOf (m : String × String) : List Char :=
  ' ' :: ' ' :: ((string m.1).toList ++ ':' :: ' ' :: m.2.toList)

theorem toList_object (members : List (String × String)) : (object members).toList =
    '\x7b' :: '\n' :: ([',', '\n'].intercalate (members.map lineOf) ++ ['\n', '\x7d']) := by
  have hlines : (members.map fun m => "  " ++ string m.1 ++ ": " ++ m.2).map String.toList =
      members.map lineOf := by
    rw [List.map_map]
    refine List.map_congr_left fun m _ => ?_
    simp [lineOf]
  unfold object
  simp only [String.toList_append, String.toList_intercalate, hlines]
  simp

/-- Values with their texts, and members that say so. -/
theorem exists_written_members {ms : List (String × Value)} (hne : ms ≠ []) :
    ∃ members : List Member, namedMembers? members = some ms ∧
      membersChars members = ',' :: '\n' ::
        ([',', '\n'].intercalate (ms.map fun m => lineOf (m.1, String.ofList m.2.chars)) ++
          ['\n']) := by
  induction ms with
  | nil => exact absurd rfl hne
  | cons m ms ih =>
    obtain ⟨ps, hps, hname⟩ := exists_written_string m.1
    cases ms with
    | nil =>
      refine ⟨[(⟨indent, ps, .none⟩, ⟨space, m.2, newline⟩)], ?_, ?_⟩
      · rw [namedMembers?_cons, hname]
        rfl
      · simp [membersChars, lineOf, hps, indent, space, newline, Blanks.chars, Blanks.none]
    | cons m' ms =>
      obtain ⟨members, hmembers, hchars⟩ := ih (List.cons_ne_nil m' ms)
      refine ⟨(⟨indent, ps, .none⟩, ⟨space, m.2, .none⟩) :: members, ?_, ?_⟩
      · rw [namedMembers?_cons, hname, hmembers]
        rfl
      · rw [List.map_cons, List.intercalate_cons_of_ne_nil (by simp)]
        simp only [membersChars, hchars]
        simp [lineOf, hps, indent, space, Blanks.chars, Blanks.none]

/-- **An object is written with its members in order.** -/
theorem exists_written_object {ms : List (String × Value)} (hne : ms ≠ []) :
    ∃ members : List Member, namedMembers? members = some ms ∧
      IsDocument (object (ms.map fun m => (m.1, String.ofList m.2.chars)))
        ⟨.none, .object .none members, .none⟩ := by
  obtain ⟨members, hmembers, hchars⟩ := exists_written_members hne
  refine ⟨members, hmembers, ?_⟩
  unfold IsDocument
  rw [toList_object, List.map_map]
  simp only [Value.chars, hchars, List.tail_cons, Blanks.chars_none]
  simp [Function.comp_def]

end Lookout.Json
