import Lookout.Json.Skip
import Lookout.Proofs.Json.Grammar
/-!
# Strings are read by their pieces

A string is read one character at a time.  What has been taken of a piece that is not whole yet is
known from the state of the reader (`Pending`), so each character goes on with a piece, ends one or
is the closing quote (`Pending.step`).

* **A string is read exactly if its pieces stand for a text** (`readString_eq_ok_iff`), and that
  text is what is read.
-/

namespace Lookout.Json

@[simp] theorem piecesChars_cons (p : Piece) (ps : List Piece) :
    piecesChars (p :: ps) = p.chars ++ piecesChars ps := rfl

/-- A unit that is no surrogate stands for its own character. -/
theorem decodePieces_unit {digits : List Char} {h : (hexQuad? digits).isSome} {n : Nat}
    (hn : hexQuad? digits = some n) (hlow : ¬(0xDC00 ≤ n ∧ n ≤ 0xDFFF))
    (hhigh : ¬(0xD800 ≤ n ∧ n ≤ 0xDBFF)) (ps : List Piece) :
    decodePieces (.unit digits h :: ps) = (decodePieces ps).map (Char.ofNat n :: ·) := by
  have hget : (hexQuad? digits).get h = n := Option.get_of_eq_some h hn
  conv => lhs; unfold decodePieces
  simp only [hget, if_neg hlow, if_neg hhigh]

/-- A leading and a trailing surrogate stand for one character. -/
theorem decodePieces_pair {digits digits' : List Char} {h : (hexQuad? digits).isSome}
    {h' : (hexQuad? digits').isSome} {n low : Nat} (hn : hexQuad? digits = some n)
    (hhigh : 0xD800 ≤ n ∧ n ≤ 0xDBFF) (hl : hexQuad? digits' = some low)
    (hlow : 0xDC00 ≤ low ∧ low ≤ 0xDFFF) (ps : List Piece) :
    decodePieces (.unit digits h :: .unit digits' h' :: ps) = (decodePieces ps).map
      (Char.ofNat ((n - 0xD800) * 0x400 + (low - 0xDC00) + 0x10000) :: ·) := by
  have hget : (hexQuad? digits).get h = n := Option.get_of_eq_some h hn
  have hget' : (hexQuad? digits').get h' = low := Option.get_of_eq_some h' hl
  have hnotLow : ¬(0xDC00 ≤ n ∧ n ≤ 0xDFFF) := by omega
  rw [decodePieces]
  simp only [hget, hget', if_neg hnotLow, if_pos hhigh, if_pos hlow]

/-! ### Hexadecimal digits -/

/-- A hexadecimal digit takes one octet. -/
theorem utf8Size_of_hexValue? {c : Char} (h : (hexValue? c).isSome) : c.utf8Size = 1 := by
  rw [Char.utf8Size_eq_one_iff]
  unfold hexValue? at h
  by_cases hdigit : c.isDigit = true
  · unfold Char.isDigit at hdigit
    rw [Bool.and_eq_true, decide_eq_true_eq, decide_eq_true_eq] at hdigit
    exact UInt32.le_trans hdigit.2 (by decide)
  · rw [if_neg hdigit] at h
    by_cases hlower : 'a' ≤ c ∧ c ≤ 'f'
    · exact UInt32.le_trans hlower.2 (by decide)
    · rw [if_neg hlower] at h
      by_cases hupper : 'A' ≤ c ∧ c ≤ 'F'
      · exact UInt32.le_trans hupper.2 (by decide)
      · rw [if_neg hupper] at h
        cases h

/-- Four hexadecimal digits are four characters of one octet each. -/
theorem exists_of_hexQuad? {digits : List Char} (h : (hexQuad? digits).isSome) :
    ∃ a b c d, digits = [a, b, c, d] ∧ a.utf8Size = 1 ∧ b.utf8Size = 1 ∧ c.utf8Size = 1 ∧
      d.utf8Size = 1 := by
  unfold hexQuad? at h
  split at h
  · rename_i a b c d
    refine ⟨a, b, c, d, rfl, ?_⟩
    rcases ha : hexValue? a with _ | x
    · simp [ha] at h
    rcases hb : hexValue? b with _ | y
    · simp [ha, hb] at h
    rcases hc : hexValue? c with _ | z
    · simp [ha, hb, hc] at h
    rcases hd : hexValue? d with _ | w
    · simp [ha, hb, hc, hd] at h
    exact ⟨utf8Size_of_hexValue? (by simp [ha]), utf8Size_of_hexValue? (by simp [hb]),
      utf8Size_of_hexValue? (by simp [hc]), utf8Size_of_hexValue? (by simp [hd])⟩
  · cases h

/-! ### Reading a string -/

/-- One character of a string that does not end it. -/
theorem stringFrom_cons_of_goOn {state next : StringState} {emit : Option Char} {c : Char}
    (h : stringStep state c = .ok (.goOn next emit)) (acc cs : List Char) :
    stringFrom state acc (c :: cs) = stringFrom next (emit.toList ++ acc) cs := by
  rw [stringFrom, h]
  cases emit <;> rfl

/-- Four hexadecimal digits are judged when all of them have been seen. -/
theorem stringFrom_hex {leading : Option Nat} {digits : List Char}
    (hdigits : (hexQuad? digits).isSome) {next : StringState} {emit : Option Char}
    (h : endOfHex leading digits = .ok (.goOn next emit)) (acc cs : List Char) :
    stringFrom (.hex leading []) acc (digits ++ cs) =
      stringFrom next (emit.toList ++ acc) cs := by
  obtain ⟨a, b, c, d, rfl, ha, hb, hc, hd⟩ := exists_of_hexQuad? hdigits
  have hfirst : stringStep (.hex leading []) a = .ok (.goOn (.hex leading [a]) none) := by
    simp [stringStep, octets, ha]
  have hsecond : stringStep (.hex leading [a]) b = .ok (.goOn (.hex leading [a, b]) none) := by
    simp [stringStep, octets, ha, hb]
  have hthird : stringStep (.hex leading [a, b]) c = .ok (.goOn (.hex leading [a, b, c]) none) := by
    simp [stringStep, octets, ha, hb, hc]
  have hlast : stringStep (.hex leading [a, b, c]) d = .ok (.goOn next emit) := by
    simp [stringStep, octets, ha, hb, hc, hd, h]
  simp only [List.cons_append, List.nil_append]
  rw [stringFrom_cons_of_goOn hfirst, stringFrom_cons_of_goOn hsecond,
    stringFrom_cons_of_goOn hthird, stringFrom_cons_of_goOn hlast]
  rfl

/-- A unit is read up to its last digit. -/
theorem stringFrom_unit {digits : List Char} (hdigits : (hexQuad? digits).isSome)
    {next : StringState} {emit : Option Char} (h : endOfHex none digits = .ok (.goOn next emit))
    (acc cs : List Char) :
    stringFrom .plain acc ('\\' :: 'u' :: (digits ++ cs)) =
      stringFrom next (emit.toList ++ acc) cs := by
  have hslash : stringStep .plain '\\' = .ok (.goOn .escape none) := rfl
  have hletter : stringStep .escape 'u' = .ok (.goOn (.hex none []) none) := rfl
  rw [stringFrom_cons_of_goOn hslash, stringFrom_cons_of_goOn hletter]
  exact stringFrom_hex hdigits h acc cs

/-- A unit behind a leading surrogate is read up to its last digit. -/
theorem stringFrom_trailing {digits : List Char} (hdigits : (hexQuad? digits).isSome) {high : Nat}
    {next : StringState} {emit : Option Char}
    (h : endOfHex (some high) digits = .ok (.goOn next emit)) (acc cs : List Char) :
    stringFrom (.wantBackslash high) acc ('\\' :: 'u' :: (digits ++ cs)) =
      stringFrom next (emit.toList ++ acc) cs := by
  have hslash : stringStep (.wantBackslash high) '\\' = .ok (.goOn (.wantU high) none) := rfl
  have hletter : stringStep (.wantU high) 'u' = .ok (.goOn (.hex (some high) []) none) := rfl
  rw [stringFrom_cons_of_goOn hslash, stringFrom_cons_of_goOn hletter]
  exact stringFrom_hex hdigits h acc cs

/-- What has been taken of a piece, or of two that belong together, when the reader is in a
state. -/
inductive Pending : StringState → List Char → Prop where
  /-- Nothing. -/
  | plain : Pending .plain []
  /-- A backslash. -/
  | escape : Pending .escape ['\\']
  /-- Some digits of a unit. -/
  | hex (seen : List Char) : Pending (.hex none seen) ('\\' :: 'u' :: seen)
  /-- A leading surrogate. -/
  | wantBackslash {digits : List Char} {high : Nat} (hdigits : hexQuad? digits = some high)
    (hhigh : 0xD800 ≤ high ∧ high ≤ 0xDBFF) :
    Pending (.wantBackslash high) ('\\' :: 'u' :: digits)
  /-- A leading surrogate and a backslash. -/
  | wantU {digits : List Char} {high : Nat} (hdigits : hexQuad? digits = some high)
    (hhigh : 0xD800 ≤ high ∧ high ≤ 0xDBFF) :
    Pending (.wantU high) ('\\' :: 'u' :: digits ++ ['\\'])
  /-- A leading surrogate and some digits of another unit. -/
  | trailing {digits : List Char} {high : Nat} (hdigits : hexQuad? digits = some high)
    (hhigh : 0xD800 ≤ high ∧ high ≤ 0xDBFF) (seen : List Char) :
    Pending (.hex (some high) seen) ('\\' :: 'u' :: digits ++ '\\' :: 'u' :: seen)

/-- A string that stands for a text is read as that text. -/
theorem stringFrom_of_decodePieces {ps : List Piece} {t : List Char}
    (h : decodePieces ps = some t) (acc rest : List Char) :
    stringFrom .plain acc (piecesChars ps ++ '"' :: rest) =
      .ok (String.ofList (acc.reverse ++ t), rest) := by
  fun_induction decodePieces ps generalizing acc t with
  | case1 =>
    cases h
    rw [List.append_nil]
    rfl
  | case2 c hc ps ih =>
    obtain ⟨t, ht, rfl⟩ := Option.map_eq_some_iff.mp h
    have hstep : stringStep .plain c = .ok (.goOn .plain (some c)) := by
      simp [stringStep, hc.1, hc.2.1, Nat.not_lt.mpr hc.2.2]
    show stringFrom .plain acc (c :: (piecesChars ps ++ '"' :: rest)) = _
    rw [stringFrom_cons_of_goOn hstep, ih ht]
    simp
  | case3 c hc ps ih =>
    obtain ⟨t, ht, rfl⟩ := Option.map_eq_some_iff.mp h
    obtain ⟨d, hd⟩ := Option.isSome_iff_exists.mp hc
    have hstep : stringStep .escape c = .ok (.goOn .plain (some d)) := by
      have hne : c ≠ 'u' := by
        rintro rfl
        cases hd
      simp [stringStep, hne, hd]
    have hslash : stringStep .plain '\\' = .ok (.goOn .escape none) := rfl
    show stringFrom .plain acc ('\\' :: c :: (piecesChars ps ++ '"' :: rest)) = _
    rw [stringFrom_cons_of_goOn hslash, stringFrom_cons_of_goOn hstep, ih ht]
    simp [hd]
  | case4 digits hdigits n hlow => cases h
  | case5 digits hdigits n hlow hhigh digits' hdigits' ps low hlow' =>
    rename_i ih
    obtain ⟨t, ht, rfl⟩ := Option.map_eq_some_iff.mp h
    have hn : hexQuad? digits = some n := (Option.some_get hdigits).symm
    have hl : hexQuad? digits' = some low := (Option.some_get hdigits').symm
    have hleading : endOfHex none digits = .ok (.goOn (.wantBackslash n) none) := by
      simp only [endOfHex, hn, if_neg hlow, if_pos hhigh]
    have htrailing : endOfHex (some n) digits' = .ok (.goOn .plain
        (some (Char.ofNat ((n - 0xD800) * 0x400 + (low - 0xDC00) + 0x10000)))) := by
      simp only [endOfHex, hl, if_neg (show ¬(low < 0xDC00 ∨ 0xDFFF < low) by omega)]
    have htext : piecesChars (.unit digits hdigits :: .unit digits' hdigits' :: ps) ++ '"' :: rest =
        '\\' :: 'u' :: (digits ++ '\\' :: 'u' :: (digits' ++ (piecesChars ps ++ '"' :: rest))) := by
      simp [Piece.chars]
    rw [htext, stringFrom_unit hdigits hleading, stringFrom_trailing hdigits' htrailing, ih ht]
    simp
  | case6 => cases h
  | case7 => cases h
  | case8 digits hdigits ps n hlow hhigh =>
    rename_i ih
    obtain ⟨t, ht, rfl⟩ := Option.map_eq_some_iff.mp h
    have hn : hexQuad? digits = some n := (Option.some_get hdigits).symm
    have hend : endOfHex none digits = .ok (.goOn .plain (some (Char.ofNat n))) := by
      simp only [endOfHex, hn, if_neg hlow, if_neg hhigh]
    have htext : piecesChars (.unit digits hdigits :: ps) ++ '"' :: rest =
        '\\' :: 'u' :: (digits ++ (piecesChars ps ++ '"' :: rest)) := by
      simp [Piece.chars]
    rw [htext, stringFrom_unit hdigits hend, ih ht]
    simp

/-- What the characters taken are when the last one has done something to the reader. -/
inductive Taken (taken : List Char) : StringStep → Prop where
  /-- Part of a piece, or of two that belong together. -/
  | part {next : StringState} (h : Pending next taken) : Taken taken (.goOn next none)
  /-- Pieces that stand for one character. -/
  | pieces {ps : List Piece} {d : Char} (hchars : taken = piecesChars ps)
    (hdecode : ∀ more, decodePieces (ps ++ more) = (decodePieces more).map (d :: ·)) :
    Taken taken (.goOn .plain (some d))
  /-- The closing quote. -/
  | quote (h : taken = ['"']) : Taken taken .done

section taken

variable {state : StringState} {out : StringStep} {pending seen : List Char} {c : Char}

/-- A unit whose last digit has been seen stands for a character or leads a pair. -/
theorem taken_of_endOfHex_none (h : endOfHex none seen = .ok out) :
    Taken ('\\' :: 'u' :: seen) out := by
  unfold endOfHex at h
  split at h
  · cases h
  · rename_i n hquad
    dsimp only at h
    split at h
    · cases h
    · rename_i hlow
      split at h
      · rename_i hhigh
        cases h
        exact .part (.wantBackslash hquad hhigh)
      · rename_i hhigh
        cases h
        have hsome : (hexQuad? seen).isSome := by rw [hquad]; rfl
        have hchars : '\\' :: 'u' :: seen = piecesChars [.unit seen hsome] := by
          simp [piecesChars, Piece.chars]
        exact .pieces hchars (decodePieces_unit hquad hlow hhigh)

/-- A unit behind a leading surrogate stands for a character together with it. -/
theorem taken_of_endOfHex_some {digits : List Char} {high : Nat}
    (hdigits : hexQuad? digits = some high) (hhigh : 0xD800 ≤ high ∧ high ≤ 0xDBFF)
    (h : endOfHex (some high) seen = .ok out) :
    Taken ('\\' :: 'u' :: digits ++ '\\' :: 'u' :: seen) out := by
  unfold endOfHex at h
  split at h
  · cases h
  · rename_i n hquad
    dsimp only at h
    split at h
    · cases h
    · rename_i hlow
      cases h
      have hfirst : (hexQuad? digits).isSome := by rw [hdigits]; rfl
      have hsecond : (hexQuad? seen).isSome := by rw [hquad]; rfl
      have hchars : '\\' :: 'u' :: digits ++ '\\' :: 'u' :: seen =
          piecesChars [.unit digits hfirst, .unit seen hsecond] := by
        simp [piecesChars, Piece.chars]
      exact .pieces hchars (decodePieces_pair hdigits hhigh hquad (by omega))

/-- A string ends, a backslash begins a piece, or a character stands for itself. -/
theorem taken_of_stringStep_plain (h : stringStep .plain c = .ok out) : Taken [c] out := by
  unfold stringStep at h
  dsimp only at h
  split at h
  · rename_i hquote
    cases h
    exact .quote (by simpa using hquote)
  rename_i hquote
  split at h
  · rename_i hslash
    cases h
    rw [(by simpa using hslash : c = '\\')]
    exact .part .escape
  rename_i hslash
  split at h
  · cases h
  · rename_i hcontrol
    cases h
    have hplain : c ≠ '"' ∧ c ≠ '\\' ∧ 0x20 ≤ c.toNat :=
      ⟨by simpa using hquote, by simpa using hslash, Nat.le_of_not_lt hcontrol⟩
    exact .pieces (show [c] = piecesChars [.plain c hplain] from rfl) fun _ => rfl

/-- After a backslash a unit begins, or a character ends the piece. -/
theorem taken_of_stringStep_escape (h : stringStep .escape c = .ok out) :
    Taken ['\\', c] out := by
  unfold stringStep at h
  dsimp only at h
  split at h
  · rename_i hletter
    cases h
    rw [(by simpa using hletter : c = 'u')]
    exact .part (.hex [])
  split at h
  · rename_i d hsimple
    cases h
    have hsome : (simpleEscape? c).isSome := by rw [hsimple]; rfl
    refine .pieces (show ['\\', c] = piecesChars [.escape c hsome] from rfl) fun more => ?_
    simp [decodePieces, hsimple]
  · cases h

/-- **One character** goes on with what has been taken, ends a piece, or is the closing quote. -/
theorem Pending.step (hp : Pending state pending) (h : stringStep state c = .ok out) :
    Taken (pending ++ [c]) out := by
  cases hp with
  | plain => exact taken_of_stringStep_plain h
  | escape => exact taken_of_stringStep_escape h
  | hex seen =>
    unfold stringStep at h
    dsimp only at h
    split at h
    · cases h
      exact .part (.hex (seen ++ [c]))
    · exact taken_of_endOfHex_none h
  | wantBackslash hdigits hhigh =>
    unfold stringStep at h
    dsimp only at h
    split at h
    · rename_i hslash
      cases h
      rw [(by simpa using hslash : c = '\\')]
      exact .part (.wantU hdigits hhigh)
    · cases h
  | wantU hdigits hhigh =>
    unfold stringStep at h
    dsimp only at h
    split at h
    · rename_i hletter
      cases h
      rw [(by simpa using hletter : c = 'u')]
      exact .part (by simpa using Pending.trailing hdigits hhigh [])
    · cases h
  | trailing hdigits hhigh seen =>
    rw [List.append_assoc, List.cons_append, List.cons_append]
    unfold stringStep at h
    dsimp only at h
    split at h
    · cases h
      exact .part (.trailing hdigits hhigh (seen ++ [c]))
    · exact taken_of_endOfHex_some hdigits hhigh h

end taken

/-- What is read, from any state on, are pieces that begin with what has been taken already. -/
theorem exists_of_stringFrom {state : StringState} {pending acc cs rest : List Char} {s : String}
    (hp : Pending state pending) (h : stringFrom state acc cs = .ok (s, rest)) :
    ∃ ps t, pending ++ cs = piecesChars ps ++ '"' :: rest ∧ decodePieces ps = some t ∧
      s = String.ofList (acc.reverse ++ t) := by
  induction cs generalizing state pending acc with
  | nil => cases h
  | cons c cs ih =>
    rw [List.append_cons]
    unfold stringFrom at h
    cases hstep : stringStep state c with
    | error e => simp [hstep] at h
    | ok out =>
      rw [hstep] at h
      cases hp.step hstep with
      | part hnext => exact ih hnext h
      | @pieces ps d hchars hdecode =>
        obtain ⟨more, t, htext, ht, hs⟩ := ih .plain h
        refine ⟨ps ++ more, d :: t, ?_, by rw [hdecode, ht]; rfl, by simpa using hs⟩
        rw [List.nil_append] at htext
        rw [hchars, htext]
        simp [piecesChars]
      | quote hquote =>
        cases h
        exact ⟨[], [], by rw [hquote]; rfl, rfl, by rw [List.append_nil]⟩

/-- **A string is read exactly if its pieces stand for a text.** -/
theorem readString_eq_ok_iff {cs rest : List Char} {s : String} :
    readString cs = .ok (s, rest) ↔
      ∃ ps t, cs = piecesChars ps ++ '"' :: rest ∧ decodePieces ps = some t ∧
        s = String.ofList t := by
  constructor
  · intro h
    exact exists_of_stringFrom .plain h
  · rintro ⟨ps, t, rfl, hdecode, rfl⟩
    exact stringFrom_of_decodePieces hdecode [] rest

end Lookout.Json
