import Lookout.Proofs.Json.Numbers
import Lookout.Proofs.Json.Strings
/-!
# Numbers and strings, one character at a time

The machine that passes over a value looks at a number or a string one character at a time and
keeps no more of it than a state.  A state is as good as what may still come: what completes a
number in it (`NumberState.Rest`), and what has been taken of a piece of a string that is not whole
yet (`QuoteState.pending`).  A step is possible exactly on what may still come
(`NumberState.rest_cons_iff`, `QuoteState.exists_pieces_of_step`, `QuoteState.exists_step`).
-/

namespace Lookout.Json

/-! ### Numbers -/

section grammar

variable {Then : List Char → Prop} {c : Char} {cs : List Char}

theorem digits_cons_iff :
    Digits Then (c :: cs) ↔ Then (c :: cs) ∨ (c.isDigit = true ∧ Digits Then cs) := by
  constructor
  · intro h
    cases h with
    | done h => exact Or.inl h
    | digit hc h => exact Or.inr ⟨hc, h⟩
  · rintro (h | ⟨hc, h⟩)
    · exact .done h
    · exact .digit hc h

theorem someDigits_cons_iff :
    SomeDigits Then (c :: cs) ↔ c.isDigit = true ∧ Digits Then cs := by
  constructor
  · intro h
    cases h with
    | digit hc h => exact ⟨hc, h⟩
  · rintro ⟨hc, h⟩
    exact .digit hc h

theorem afterLetter_cons_iff : AfterLetter (c :: cs) ↔
    ((c = '+' ∨ c = '-') ∧ SomeDigits (· = []) cs) ∨ (c.isDigit = true ∧ Digits (· = []) cs) := by
  constructor
  · intro h
    cases h with
    | unsigned h => exact Or.inr (someDigits_cons_iff.mp h)
    | signed hc h => exact Or.inl ⟨hc, h⟩
  · rintro (⟨hc, h⟩ | h)
    · exact .signed hc h
    · exact .unsigned (someDigits_cons_iff.mpr h)

theorem optionalExponent_cons_iff :
    OptionalExponent (c :: cs) ↔ (c = 'e' ∨ c = 'E') ∧ AfterLetter cs := by
  constructor
  · intro h
    cases h with
    | some hc h => exact ⟨hc, h⟩
  · rintro ⟨hc, h⟩
    exact .some hc h

theorem optionalFraction_cons_iff : OptionalFraction (c :: cs) ↔
    (c = '.' ∧ SomeDigits OptionalExponent cs) ∨ ((c = 'e' ∨ c = 'E') ∧ AfterLetter cs) := by
  constructor
  · intro h
    cases h with
    | none h => exact Or.inr (optionalExponent_cons_iff.mp h)
    | some h => exact Or.inl ⟨rfl, h⟩
  · rintro (⟨rfl, h⟩ | h)
    · exact .some h
    · exact .none (optionalExponent_cons_iff.mpr h)

theorem isUnsigned_cons_iff : IsUnsigned (c :: cs) ↔
    (c = '0' ∧ OptionalFraction cs) ∨
      (c.isDigit = true ∧ c ≠ '0' ∧ Digits OptionalFraction cs) := by
  constructor
  · intro h
    cases h with
    | zero h => exact Or.inl ⟨rfl, h⟩
    | digits hc hne h => exact Or.inr ⟨hc, hne, h⟩
  · rintro (⟨rfl, h⟩ | ⟨hc, hne, h⟩)
    · exact .zero h
    · exact .digits hc hne h

end grammar

namespace NumberState

/-- What completes a number in a state. -/
def Rest : NumberState → List Char → Prop
  | .sign => IsUnsigned
  | .zero => OptionalFraction
  | .whole => Digits OptionalFraction
  | .point => SomeDigits OptionalExponent
  | .fraction => Digits OptionalExponent
  | .letter => AfterLetter
  | .exponentSign => SomeDigits (· = [])
  | .exponent => Digits (· = [])

/-- A number may end where nothing is missing. -/
theorem rest_nil_iff {s : NumberState} : s.Rest [] ↔ s.complete = true := by
  cases s with
  | sign | point | letter | exponentSign =>
    constructor
    · intro h
      cases h
      try contradiction
    · intro h
      cases h
  | zero => exact ⟨fun _ => rfl, fun _ => .none .none⟩
  | whole => exact ⟨fun _ => rfl, fun _ => .done (.none .none)⟩
  | fraction => exact ⟨fun _ => rfl, fun _ => .done .none⟩
  | exponent => exact ⟨fun _ => rfl, fun _ => .done rfl⟩

/-- A character of a number leads to a state that the others complete. -/
theorem rest_cons_iff {s : NumberState} {c : Char} {cs : List Char} :
    s.Rest (c :: cs) ↔ ∃ next, s.step c = .ok (some next) ∧ next.Rest cs := by
  by_cases hd : c.isDigit = true
  · have hpoint : c ≠ '.' := ne_of_isDigit hd rfl
    have he : c ≠ 'e' := ne_of_isDigit hd rfl
    have hE : c ≠ 'E' := ne_of_isDigit hd rfl
    have hplus : c ≠ '+' := ne_of_isDigit hd rfl
    have hminus : c ≠ '-' := ne_of_isDigit hd rfl
    cases s with
    | sign =>
      by_cases hzero : c = '0'
      · simp [Rest, step, isUnsigned_cons_iff, hzero]
      · simp [Rest, step, isUnsigned_cons_iff, hzero, hd]
    | zero => simp [Rest, step, optionalFraction_cons_iff, hd, hpoint, he, hE]
    | whole => simp [Rest, step, digits_cons_iff, optionalFraction_cons_iff, hd, hpoint, he, hE]
    | point => simp [Rest, step, someDigits_cons_iff, hd]
    | fraction => simp [Rest, step, digits_cons_iff, optionalExponent_cons_iff, hd, he, hE]
    | letter => simp [Rest, step, afterLetter_cons_iff, hd, hplus, hminus]
    | exponentSign => simp [Rest, step, someDigits_cons_iff, hd]
    | exponent => simp [Rest, step, digits_cons_iff, hd]
  · cases s with
    | sign =>
      have hzero : c ≠ '0' := by
        rintro rfl
        exact hd rfl
      simp [Rest, step, isUnsigned_cons_iff, hzero, hd]
    | zero =>
      by_cases hpoint : c = '.'
      · simp [Rest, step, optionalFraction_cons_iff, hpoint]
      · by_cases hletter : c = 'e' ∨ c = 'E'
        · simp [Rest, step, optionalFraction_cons_iff, hd, hpoint, hletter]
        · simp [Rest, step, optionalFraction_cons_iff, hd, hpoint, hletter]
    | whole =>
      by_cases hpoint : c = '.'
      · simp [Rest, step, digits_cons_iff, optionalFraction_cons_iff, hpoint]
      · by_cases hletter : c = 'e' ∨ c = 'E'
        · simp [Rest, step, digits_cons_iff, optionalFraction_cons_iff, hd, hpoint, hletter]
        · simp [Rest, step, digits_cons_iff, optionalFraction_cons_iff, hd, hpoint, hletter]
    | point => simp [Rest, step, someDigits_cons_iff, hd]
    | fraction =>
      by_cases hletter : c = 'e' ∨ c = 'E'
      · simp [Rest, step, digits_cons_iff, optionalExponent_cons_iff, hd, hletter]
      · simp [Rest, step, digits_cons_iff, optionalExponent_cons_iff, hd, hletter]
    | letter =>
      by_cases hsign : c = '+' ∨ c = '-'
      · simp [Rest, step, afterLetter_cons_iff, hd, hsign]
      · simp [Rest, step, afterLetter_cons_iff, hd, hsign]
    | exponentSign => simp [Rest, step, someDigits_cons_iff, hd]
    | exponent => simp [Rest, step, digits_cons_iff, hd]

/-- A number is only left where nothing is missing. -/
theorem complete_of_step {s : NumberState} {c : Char} (h : s.step c = .ok none) :
    s.complete = true := by
  cases s with
  | zero | whole | fraction | exponent => rfl
  | sign | letter =>
    unfold step at h
    dsimp only at h
    split at h
    · cases h
    · split at h <;> cases h
  | point | exponentSign =>
    unfold step at h
    dsimp only at h
    split at h <;> cases h

/-- Where nothing is missing, a number is left by what stops it. -/
theorem step_of_stops {s : NumberState} (hs : s.complete = true) {c : Char} {cs : List Char}
    (hstops : Stops (c :: cs)) : s.step c = .ok none := by
  obtain ⟨hd, hpoint, he, hE⟩ := hstops c rfl
  cases s with
  | sign | point | letter | exponentSign => cases hs
  | zero | whole | fraction | exponent => simp [step, hd, hpoint, he, hE]

end NumberState

/-! ### Strings -/

theorem octets_cons (c : Char) (cs : List Char) :
    octets (c :: cs) = c.utf8Size + octets cs := by
  have hshift (n : Nat) (cs : List Char) :
      cs.foldl (fun n c => n + c.utf8Size) n = n + octets cs := by
    induction cs generalizing n with
    | nil => rfl
    | cons d cs ih =>
      show cs.foldl _ (n + d.utf8Size) = n + cs.foldl _ (0 + d.utf8Size)
      rw [ih, ih]
      omega
  show cs.foldl _ (0 + c.utf8Size) = _
  rw [hshift]
  omega

theorem octets_append (cs ds : List Char) : octets (cs ++ ds) = octets cs + octets ds := by
  induction cs with
  | nil => exact (Nat.zero_add _).symm
  | cons c cs ih =>
    rw [List.cons_append, octets_cons, octets_cons, ih]
    omega

/-- Hexadecimal digits are one octet each. -/
theorem octets_of_hexQuad? {digits : List Char} (h : (hexQuad? digits).isSome) :
    octets digits = 4 := by
  obtain ⟨a, b, c, d, rfl, ha, hb, hc, hd⟩ := exists_of_hexQuad? h
  simp [octets, ha, hb, hc, hd]

/-- Where fewer than four octets have been seen, another digit follows. -/
theorem exists_later_digits {digits seen more : List Char} {c : Char} {cs : List Char}
    (hdigits : (hexQuad? digits).isSome) (hfew : octets seen < 4)
    (h : seen ++ c :: cs = digits ++ more) :
    ∃ later, digits = seen ++ c :: later ∧ cs = later ++ more := by
  have hfour := octets_of_hexQuad? hdigits
  rcases List.append_eq_append_iff.mp h with ⟨later, rfl, hlater⟩ | ⟨excess, rfl, -⟩
  · cases later with
    | nil =>
      rw [List.append_nil] at hfour
      omega
    | cons d later =>
      cases hlater
      exact ⟨later, rfl, rfl⟩
  · rw [octets_append] at hfew
    omega

namespace QuoteState

/-- What has been taken of a piece that is not whole yet. -/
def pending : QuoteState → List Char
  | .plain => []
  | .escape => ['\\']
  | .hex seen => '\\' :: 'u' :: seen

/-- The digits of an escape are judged once four octets have been seen. -/
def Fits : QuoteState → Prop
  | .plain | .escape => True
  | .hex seen => octets seen < 4

/-- The string ends at a quote between two pieces. -/
theorem eq_plain_of_step {s : QuoteState} {c : Char} (h : s.step c = .ok none) :
    s = .plain ∧ c = '"' := by
  cases s with
  | plain =>
    refine ⟨rfl, ?_⟩
    unfold step at h
    dsimp only at h
    split at h
    · rename_i hquote
      simpa using hquote
    · split at h
      · cases h
      · split at h <;> cases h
  | escape =>
    unfold step at h
    dsimp only at h
    split at h
    · cases h
    · split at h <;> cases h
  | hex seen =>
    unfold step at h
    dsimp only at h
    split at h
    · cases h
    · split at h <;> cases h

/-- Any other character goes on with a piece, or ends it. -/
theorem pending_of_step {s next : QuoteState} {c : Char} (h : s.step c = .ok (some next)) :
    next.pending = s.pending ++ [c] ∨
      (next = .plain ∧ ∃ p : Piece, p.chars = s.pending ++ [c]) := by
  cases s with
  | plain =>
    unfold step at h
    dsimp only at h
    split at h
    · cases h
    · rename_i hquote
      split at h
      · rename_i hslash
        cases h
        left
        simp [pending, (by simpa using hslash : c = '\\')]
      · rename_i hslash
        split at h
        · cases h
        · rename_i hcontrol
          cases h
          refine Or.inr ⟨rfl, .plain c ⟨by simpa using hquote, by simpa using hslash, ?_⟩, rfl⟩
          exact Nat.le_of_not_lt hcontrol
  | escape =>
    unfold step at h
    dsimp only at h
    split at h
    · rename_i hletter
      cases h
      left
      simp [pending, (by simpa using hletter : c = 'u')]
    · split at h
      · rename_i hsimple
        cases h
        exact Or.inr ⟨rfl, .escape c hsimple, rfl⟩
      · cases h
  | hex seen =>
    unfold step at h
    dsimp only at h
    split at h
    · cases h
      exact Or.inl rfl
    · split at h
      · rename_i hquad
        cases h
        exact Or.inr ⟨rfl, .unit (seen ++ [c]) hquad, rfl⟩
      · cases h

/-- A string goes on with what is taken of it. -/
theorem exists_pieces_of_step {q next : QuoteState} {c : Char} {cs tail : List Char}
    {ps : List Piece} (hstep : q.step c = .ok (some next))
    (h : next.pending ++ cs = piecesChars ps ++ tail) :
    ∃ ps, q.pending ++ c :: cs = piecesChars ps ++ tail := by
  rcases pending_of_step hstep with hpending | ⟨rfl, p, hp⟩
  · exact ⟨ps, by rw [← h, hpending]; simp⟩
  · refine ⟨p :: ps, ?_⟩
    rw [piecesChars_cons, hp, List.append_assoc, ← h]
    simp [pending]

/-- Digits are taken up to the fourth octet. -/
theorem fits_of_step {s next : QuoteState} {c : Char} (h : s.step c = .ok (some next)) :
    next.Fits := by
  cases s with
  | plain =>
    unfold step at h
    dsimp only at h
    split at h
    · cases h
    · split at h
      · cases h
        trivial
      · split at h
        · cases h
        · cases h
          trivial
  | escape =>
    unfold step at h
    dsimp only at h
    split at h
    · cases h
      exact (by decide : octets [] < 4)
    · split at h
      · cases h
        trivial
      · cases h
  | hex seen =>
    unfold step at h
    dsimp only at h
    split at h
    · rename_i hfew
      cases h
      exact hfew
    · split at h
      · cases h
        trivial
      · cases h

/-- Among the digits of a unit one more digit is taken. -/
theorem exists_step_hex {seen digits : List Char} (hfits : Fits (.hex seen))
    (hdigits : (hexQuad? digits).isSome) {c : Char} {cs tail : List Char} {ps : List Piece}
    (h : seen ++ c :: cs = digits ++ (piecesChars ps ++ '"' :: tail)) :
    ∃ next ps', (hex seen).step c = .ok (some next) ∧
      next.pending ++ cs = piecesChars ps' ++ '"' :: tail := by
  obtain ⟨later, rfl, rfl⟩ := exists_later_digits hdigits hfits h
  have hfour := octets_of_hexQuad? hdigits
  rw [octets_append, octets_cons] at hfour
  cases later with
  | nil =>
    have hall : ¬octets (seen ++ [c]) < 4 := by
      rw [octets_append, octets_cons]
      omega
    exact ⟨.plain, ps, by simp [step, hall, hdigits], rfl⟩
  | cons d later =>
    have hmore : octets (seen ++ [c]) < 4 := by
      have hpos := d.utf8Size_pos
      rw [octets_cons] at hfour
      rw [octets_append, octets_cons, show octets [] = 0 from rfl]
      omega
    exact ⟨.hex (seen ++ [c]), .unit _ hdigits :: ps, by simp [step, hmore],
      by simp [pending, piecesChars_cons, Piece.chars]⟩

/-- A string that is complete goes on with its closing quote or with another character of it. -/
theorem exists_step {q : QuoteState} (hfits : q.Fits) {c : Char} {cs tail : List Char}
    {ps : List Piece} (h : q.pending ++ c :: cs = piecesChars ps ++ '"' :: tail) :
    (q.step c = .ok none ∧ cs = tail) ∨
      ∃ next ps', q.step c = .ok (some next) ∧
        next.pending ++ cs = piecesChars ps' ++ '"' :: tail := by
  cases ps with
  | nil =>
    cases q with
    | plain =>
      cases h
      exact Or.inl ⟨rfl, rfl⟩
    | escape | hex => cases h
  | cons p ps =>
    right
    cases q with
    | plain =>
      cases p with
      | plain d hd =>
        cases h
        exact ⟨.plain, ps, by simp [step, hd], rfl⟩
      | escape | unit =>
        have hc : c = '\\' := by
          cases h
          rfl
        subst hc
        exact ⟨.escape, _, rfl, h⟩
    | escape =>
      cases p with
      | plain d hd => exact absurd (List.cons.inj h).1.symm hd.2.1
      | escape d hd =>
        cases h
        have hu : c ≠ 'u' := by
          rintro rfl
          cases hd
        exact ⟨.plain, ps, by simp [step, hu, hd], rfl⟩
      | unit digits hdigits =>
        have hc : c = 'u' := by
          cases h
          rfl
        subst hc
        exact ⟨.hex [], _, rfl, h⟩
    | hex seen =>
      cases p with
      | plain d hd => exact absurd (List.cons.inj h).1.symm hd.2.1
      | escape d hd =>
        have hu : 'u' = d := (List.cons.inj (List.cons.inj h).2).1
        subst hu
        cases hd
      | unit digits hdigits =>
        have hseen : seen ++ c :: cs = digits ++ (piecesChars ps ++ '"' :: tail) := by
          simpa [pending, piecesChars_cons, Piece.chars] using h
        exact exists_step_hex hfits hdigits hseen

/-- What has been taken of a piece is not a whole string. -/
theorem pending_ne {q : QuoteState} (hfits : q.Fits) {ps : List Piece} {tail : List Char} :
    q.pending ≠ piecesChars ps ++ '"' :: tail := by
  intro h
  cases q with
  | plain => simp [pending] at h
  | escape =>
    cases ps with
    | nil => cases h
    | cons p ps =>
      cases p with
      | plain d hd => exact hd.2.1 (List.cons.inj h).1.symm
      | escape d hd => simp [pending, piecesChars_cons, Piece.chars] at h
      | unit digits hdigits => simp [pending, piecesChars_cons, Piece.chars] at h
  | hex seen =>
    cases ps with
    | nil => cases h
    | cons p ps =>
      cases p with
      | plain d hd => exact hd.2.1 (List.cons.inj h).1.symm
      | escape d hd =>
        have hu : 'u' = d := (List.cons.inj (List.cons.inj h).2).1
        subst hu
        cases hd
      | unit digits hdigits =>
        have hseen : seen = digits ++ (piecesChars ps ++ '"' :: tail) := by
          simpa [pending, piecesChars_cons, Piece.chars] using h
        have hfew : octets seen < 4 := hfits
        rw [hseen, octets_append, octets_of_hexQuad? hdigits] at hfew
        omega

end QuoteState

end Lookout.Json
