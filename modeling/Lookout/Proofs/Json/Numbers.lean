import Lookout.Proofs.Json.Grammar
import Lookout.Proofs.Results
/-!
# Numbers are read by their grammar

A reader that comes to an end has taken some characters from the front of the text, and it takes the
same ones whatever follows them, as long as that cannot belong to a number (`Stops`).

* **A number is read exactly if it is one** (`reads_readNumber`): what is taken is a number of the
  grammar, whether it is read for its value or passed over.
-/

namespace Lookout.Json

/-- Nothing that a number could go on with comes next. -/
def Stops (cs : List Char) : Prop :=
  ∀ c ∈ cs.head?, c.isDigit = false ∧ c ≠ '.' ∧ c ≠ 'e' ∧ c ≠ 'E'

/-- The reader takes characters of a grammar from the front of a text, the same ones whatever stops
it behind them. -/
def Reads {α : Type} (grammar : List Char → Prop)
    (reader : List Char → Except Error (α × List Char)) : Prop :=
  ∀ cs x rest, reader cs = .ok (x, rest) → ∃ token, cs = token ++ rest ∧ grammar token ∧
    ∀ more, Stops more → reader (token ++ more) = .ok (x, more)

/-- No digit comes next. -/
def NoDigit (cs : List Char) : Prop := ∀ c ∈ cs.head?, c.isDigit = false

theorem stops_nil : Stops [] := nofun

/-- What stops a number is no digit. -/
theorem Stops.noDigit {cs : List Char} (h : Stops cs) : NoDigit cs := fun c hc => (h c hc).1

theorem NoDigit.not_isDigit {c : Char} {cs : List Char} (h : NoDigit (c :: cs)) :
    c.isDigit = false :=
  h c rfl

/-! ### Digits -/

/-- Digits may stand before what follows digits. -/
theorem Digits.append {Then : List Char → Prop} {ds cs : List Char}
    (hds : ∀ d ∈ ds, d.isDigit = true) (h : Digits Then cs) : Digits Then (ds ++ cs) := by
  induction ds with
  | nil => exact h
  | cons d ds ih =>
    exact .digit (hds d List.mem_cons_self) (ih fun e he => hds e (List.mem_cons_of_mem _ he))

/-- The same, if there is at least one digit. -/
theorem SomeDigits.append {Then : List Char → Prop} {ds cs : List Char} (hne : ds ≠ [])
    (hds : ∀ d ∈ ds, d.isDigit = true) (h : Digits Then cs) : SomeDigits Then (ds ++ cs) := by
  cases ds with
  | nil => exact absurd rfl hne
  | cons d ds =>
    exact .digit (hds d List.mem_cons_self)
      (Digits.append (fun e he => hds e (List.mem_cons_of_mem _ he)) h)

/-- The digits that are passed over are the same whatever stops them. -/
theorem exists_passDigits (n : Nat) (cs : List Char) :
    ∃ ds, cs = ds ++ (passDigits n cs).2 ∧ (∀ d ∈ ds, d.isDigit = true) ∧
      NoDigit (passDigits n cs).2 ∧
      ∀ more, NoDigit more → passDigits n (ds ++ more) = ((passDigits n cs).1, more) := by
  induction cs generalizing n with
  | nil =>
    refine ⟨[], rfl, nofun, nofun, fun more hmore => ?_⟩
    cases more with
    | nil => rfl
    | cons c cs => simp [passDigits, hmore.not_isDigit]
  | cons c cs ih =>
    by_cases hc : c.isDigit = true
    · obtain ⟨ds, hds, hdigits, hnone, hmore⟩ := ih (n + 1)
      have hpass (cs : List Char) : passDigits n (c :: cs) = passDigits (n + 1) cs := by
        rw [passDigits, if_pos hc]
      rw [hpass]
      refine ⟨c :: ds, congrArg (c :: ·) hds, ?_, hnone, fun more hstops => ?_⟩
      · simpa [hc] using hdigits
      · rw [List.cons_append, hpass, hmore more hstops]
    · have hpass : passDigits n (c :: cs) = (n, c :: cs) := by
        rw [passDigits, if_neg hc]
      rw [hpass]
      refine ⟨[], rfl, nofun, fun d hd => by cases hd; simpa using hc, fun more hmore => ?_⟩
      cases more with
      | nil => rfl
      | cons d ds => simp [passDigits, hmore.not_isDigit]

/-- No further digit is absorbed; whether that is so depends on the next character alone. -/
def AbsorbsNone (significand : Nat) (cs : List Char) : Prop :=
  ∀ c ∈ cs.head?, ¬(c.isDigit = true ∧ significand * 10 + digitValue c < 0x10000000000000000)

/-- Where nothing is absorbed everything is left. -/
theorem absorb_of_absorbsNone {significand count : Nat} {cs : List Char}
    (h : AbsorbsNone significand cs) : absorb significand count cs = (significand, count, cs) := by
  cases cs with
  | nil => rfl
  | cons c cs =>
    unfold absorb
    exact if_neg (h c rfl)

theorem NoDigit.absorbsNone {cs : List Char} (h : NoDigit cs) (significand : Nat) :
    AbsorbsNone significand cs := by
  rintro c hc ⟨hdigit, _⟩
  rw [h c hc] at hdigit
  cases hdigit

/-- The digits that are absorbed are the same whatever stops them. -/
theorem exists_absorb (significand count : Nat) (cs : List Char) :
    ∃ ds, cs = ds ++ (absorb significand count cs).2.2 ∧ (∀ d ∈ ds, d.isDigit = true) ∧
      (absorb significand count cs).2.1 = count + ds.length ∧
      AbsorbsNone (absorb significand count cs).1 (absorb significand count cs).2.2 ∧
      ∀ more, AbsorbsNone (absorb significand count cs).1 more →
        absorb significand count (ds ++ more) =
          ((absorb significand count cs).1, (absorb significand count cs).2.1, more) := by
  induction cs generalizing significand count with
  | nil => exact ⟨[], rfl, nofun, rfl, nofun, fun more hmore => absorb_of_absorbsNone hmore⟩
  | cons c cs ih =>
    by_cases hc : c.isDigit = true ∧ significand * 10 + digitValue c < 0x10000000000000000
    · obtain ⟨ds, hds, hdigits, hcount, hnone, hmore⟩ :=
        ih (significand * 10 + digitValue c) (count + 1)
      have habsorb (cs : List Char) : absorb significand count (c :: cs) =
          absorb (significand * 10 + digitValue c) (count + 1) cs := by
        rw [absorb]
        exact if_pos hc
      rw [habsorb]
      refine ⟨c :: ds, congrArg (c :: ·) hds, ?_, ?_, hnone, fun more hstops => ?_⟩
      · simpa [hc.1] using hdigits
      · rw [hcount, List.length_cons]
        omega
      · rw [List.cons_append, habsorb, hmore more hstops]
    · have hnone : AbsorbsNone significand (c :: cs) := by
        intro d hd
        cases hd
        exact hc
      rw [absorb_of_absorbsNone hnone]
      exact ⟨[], rfl, nofun, rfl, hnone, fun more hmore => absorb_of_absorbsNone hmore⟩

/-- The digits of an exponent are the same whatever stops them. -/
theorem exists_exponentDigits (value : Nat) (cs : List Char) :
    ∃ ds, cs = ds ++ (exponentDigits value cs).2 ∧ (∀ d ∈ ds, d.isDigit = true) ∧
      ∀ more, NoDigit more → exponentDigits value (ds ++ more) =
        ((exponentDigits value cs).1, more) := by
  induction cs generalizing value with
  | nil =>
    refine ⟨[], rfl, nofun, fun more hmore => ?_⟩
    cases more with
    | nil => rfl
    | cons c cs => simp [exponentDigits, hmore.not_isDigit]
  | cons c cs ih =>
    by_cases hc : c.isDigit = true
    · by_cases hsmall : value * 10 + digitValue c < 0x80000000
      · obtain ⟨ds, hds, hdigits, hmore⟩ := ih (value * 10 + digitValue c)
        refine ⟨c :: ds, ?_, ?_, fun more hstops => ?_⟩
        · simpa [exponentDigits, hc, hsmall] using hds
        · simpa [hc] using hdigits
        · simpa [exponentDigits, hc, hsmall] using hmore more hstops
      · obtain ⟨ds, hds, hdigits, -, hmore⟩ := exists_passDigits 0 cs
        refine ⟨c :: ds, ?_, ?_, fun more hstops => ?_⟩
        · simpa [exponentDigits, hc, hsmall] using hds
        · simpa [hc] using hdigits
        · simp [exponentDigits, hc, hsmall, hmore more hstops]
    · refine ⟨[], by simp [exponentDigits, hc], nofun, fun more hmore => ?_⟩
      cases more with
      | nil => simp [exponentDigits, hc]
      | cons d ds => simp [exponentDigits, hc, hmore.not_isDigit]

/-! ### The parts of a number -/

variable {negative : Bool} {significand : Nat} {shift : Int}

/-- The value of a number by its exponent, if that is not too large to be kept. -/
def exponentOf (negative : Bool) (significand : Nat) (shift : Int) (down : Bool) :
    Option Nat → Except Error Float
  | some e => scaled negative significand (if down then shift - e else shift + e)
  | none =>
    if significand ≠ 0 ∧ !down then .error .numberOutOfRange
    else .ok (if negative then -0.0 else 0.0)

/-- Read what follows the sign of an exponent. -/
def exponentValue (negative : Bool) (significand : Nat) (shift : Int) (down : Bool) :
    List Char → Except Error (Float × List Char)
  | [] => .error .endInValue
  | c :: cs =>
    if c.isDigit then
      (exponentOf negative significand shift down (exponentDigits (digitValue c) cs).1).map
        (·, (exponentDigits (digitValue c) cs).2)
    else .error .invalidNumber

/-- Whether an exponent has a minus sign, and what follows its sign. -/
def splitSign : List Char → Bool × List Char
  | '+' :: cs => (false, cs)
  | '-' :: cs => (true, cs)
  | cs => (false, cs)

/-- An exponent is read behind its sign, if it has one. -/
theorem exponentPart_eq (cs : List Char) : exponentPart negative significand shift cs =
    exponentValue negative significand shift (splitSign cs).1 (splitSign cs).2 := by
  unfold exponentPart
  split
  rename_i down rest heq
  have hsign : splitSign cs = (down, rest) := heq
  rw [hsign]
  unfold exponentValue
  cases rest with
  | nil => rfl
  | cons c rest =>
    dsimp only
    by_cases hc : c.isDigit = true
    · rw [if_pos hc, if_pos hc]
      rcases exponentDigits (digitValue c) rest with ⟨_ | e, left⟩
      · dsimp only [exponentOf]
        split <;> rfl
      · dsimp only [exponentOf]
        rcases scaled negative significand (if down = true then shift - e else shift + e) with
          cause | y <;> rfl
    · rw [if_neg hc, if_neg hc]

/-- The sign is a sign. -/
theorem splitSign_cases (cs : List Char) :
    (∃ c, (c = '+' ∨ c = '-') ∧ cs = c :: (splitSign cs).2 ∧
        ∀ more, splitSign (c :: more) = ((splitSign cs).1, more)) ∨
      ((∀ c ∈ cs.head?, c ≠ '+' ∧ c ≠ '-') ∧ splitSign cs = (false, cs)) := by
  unfold splitSign
  split
  · exact Or.inl ⟨'+', Or.inl rfl, rfl, fun _ => rfl⟩
  · exact Or.inl ⟨'-', Or.inr rfl, rfl, fun _ => rfl⟩
  · rename_i hplus hminus
    refine Or.inr ⟨fun c hc => ⟨?_, ?_⟩, rfl⟩
    · rintro rfl
      cases cs <;> simp_all
    · rintro rfl
      cases cs <;> simp_all

theorem reads_exponentValue (down : Bool) :
    Reads (SomeDigits (· = [])) (exponentValue negative significand shift down) := by
  intro cs x rest h
  cases cs with
  | nil => cases h
  | cons c cs =>
    by_cases hc : c.isDigit = true
    · have hvalue (cs : List Char) : exponentValue negative significand shift down (c :: cs) =
          (exponentOf negative significand shift down (exponentDigits (digitValue c) cs).1).map
            (·, (exponentDigits (digitValue c) cs).2) :=
        if_pos hc
      obtain ⟨ds, hds, hdigits, hmore⟩ := exists_exponentDigits (digitValue c) cs
      rw [hvalue, Results.map_eq_ok_iff] at h
      obtain ⟨y, hy, hpair⟩ := h
      obtain ⟨rfl, rfl⟩ := Prod.mk.inj hpair
      refine ⟨c :: ds, congrArg (c :: ·) hds, ?_, fun more hstops => ?_⟩
      · have hall : Digits (· = []) (ds ++ []) := Digits.append hdigits (.done rfl)
        rw [List.append_nil] at hall
        exact .digit hc hall
      · rw [List.cons_append, hvalue, hmore more hstops.noDigit, hy]
        rfl
    · have hvalue : exponentValue negative significand shift down (c :: cs) =
          .error .invalidNumber :=
        if_neg hc
      rw [hvalue] at h
      cases h

theorem splitSign_of_ne {cs : List Char} (h : ∀ c ∈ cs.head?, c ≠ '+' ∧ c ≠ '-') :
    splitSign cs = (false, cs) := by
  unfold splitSign
  split
  · exact absurd rfl (h '+' (by simp)).1
  · exact absurd rfl (h '-' (by simp)).2
  · rfl

/-- A digit is no sign, no point and no letter. -/
theorem ne_of_isDigit {c d : Char} (hc : c.isDigit = true) (hd : d.isDigit = false) : c ≠ d := by
  rintro rfl
  rw [hc] at hd
  cases hd

theorem reads_exponentPart : Reads AfterLetter (exponentPart negative significand shift) := by
  intro cs x rest h
  rw [exponentPart_eq] at h
  obtain ⟨token, hcs, hgrammar, hmore⟩ := reads_exponentValue _ _ _ _ h
  rcases splitSign_cases cs with ⟨c, hc, hsign, hagain⟩ | ⟨hne, hsign⟩
  · rw [hcs] at hsign
    refine ⟨c :: token, hsign, .signed hc hgrammar, fun more hstops => ?_⟩
    rw [exponentPart_eq, List.cons_append, hagain]
    exact hmore more hstops
  · rw [hsign] at hcs hmore
    refine ⟨token, hcs, .unsigned hgrammar, fun more hstops => ?_⟩
    cases hgrammar with
    | digit hd _ =>
      rw [exponentPart_eq, splitSign_of_ne]
      · exact hmore more hstops
      · intro d hd'
        cases hd'
        exact ⟨ne_of_isDigit hd (by decide), ne_of_isDigit hd (by decide)⟩

/-- Without the letter of an exponent there is none. -/
theorem withExponent_of_ne {cs : List Char} (h : ∀ c ∈ cs.head?, c ≠ 'e' ∧ c ≠ 'E') :
    withExponent negative significand shift cs =
      (scaled negative significand shift).map (·, cs) := by
  unfold withExponent
  split
  · exact absurd rfl (h 'e' (by simp)).1
  · exact absurd rfl (h 'E' (by simp)).2
  · cases scaled negative significand shift <;> rfl

theorem reads_withExponent : Reads OptionalExponent (withExponent negative significand shift) := by
  intro cs x rest h
  by_cases hletter : ∃ c tail, (c = 'e' ∨ c = 'E') ∧ cs = c :: tail
  · obtain ⟨c, tail, hc, rfl⟩ := hletter
    have hwith (tail : List Char) : withExponent negative significand shift (c :: tail) =
        exponentPart negative significand shift tail := by
      rcases hc with rfl | rfl <;> rfl
    rw [hwith] at h
    obtain ⟨token, rfl, hgrammar, hmore⟩ := reads_exponentPart _ _ _ h
    refine ⟨c :: token, rfl, .some hc hgrammar, fun more hstops => ?_⟩
    rw [List.cons_append, hwith, hmore more hstops]
  · have hne : ∀ c ∈ cs.head?, c ≠ 'e' ∧ c ≠ 'E' := by
      intro c hc
      cases cs with
      | nil => cases hc
      | cons d tail =>
        cases hc
        exact ⟨fun he => hletter ⟨_, _, Or.inl he, rfl⟩, fun he => hletter ⟨_, _, Or.inr he, rfl⟩⟩
    rw [withExponent_of_ne hne, Results.map_eq_ok_iff] at h
    obtain ⟨y, hy, hpair⟩ := h
    obtain ⟨rfl, rfl⟩ := Prod.mk.inj hpair
    refine ⟨[], rfl, .none, fun more hstops => ?_⟩
    rw [List.nil_append, withExponent_of_ne fun c hc => (hstops c hc).2.2, hy]
    rfl

/-- An exponent does not start with a digit. -/
theorem OptionalExponent.noDigit_append {cs more : List Char} (h : OptionalExponent cs)
    (hstops : Stops more) : NoDigit (cs ++ more) := by
  cases h with
  | none => exact hstops.noDigit
  | some hc _ =>
    intro d hd
    cases hd
    rcases hc with rfl | rfl <;> decide

/-- A fraction does not either. -/
theorem OptionalFraction.noDigit_append {cs more : List Char} (h : OptionalFraction cs)
    (hstops : Stops more) : NoDigit (cs ++ more) := by
  cases h with
  | none h => exact h.noDigit_append hstops
  | some h =>
    intro d hd
    cases hd
    decide

/-- A fraction needs a digit; all its digits are then passed over, whether they are absorbed or
not. -/
theorem fractionPart_eq_ok_iff {cs rest : List Char} {x : Float} :
    fractionPart negative significand shift cs = .ok (x, rest) ↔
      ((absorb significand 0 cs).2.1 ≠ 0 ∨ ¬NoDigit (absorb significand 0 cs).2.2) ∧
        withExponent negative (absorb significand 0 cs).1 (shift - (absorb significand 0 cs).2.1)
          (passDigits 0 (absorb significand 0 cs).2.2).2 = .ok (x, rest) := by
  unfold fractionPart
  rcases absorb significand 0 cs with ⟨kept, count, _ | ⟨c, left⟩⟩
  · have hnone : NoDigit [] := nofun
    by_cases hcount : count = 0
    · simp [hcount, hnone]
    · simp [hcount, passDigits]
  · by_cases hc : c.isDigit = true
    · have hdigit : ¬NoDigit (c :: left) := fun h => by simp [h.not_isDigit] at hc
      simp [hc, hdigit]
    · have hnone : NoDigit (c :: left) := fun d hd => by cases hd; simpa using hc
      by_cases hcount : count = 0
      · simp [hc, hcount, hnone]
      · simp [hc, hcount, passDigits]

/-- Whether a digit is absorbed is seen at the first of the digits that are left. -/
theorem absorbsNone_append {kept : Nat} {ds cs more : List Char}
    (h : AbsorbsNone kept (ds ++ cs)) (hmore : NoDigit more) : AbsorbsNone kept (ds ++ more) := by
  cases ds with
  | nil => exact hmore.absorbsNone kept
  | cons d ds =>
    intro e he
    cases he
    exact h d rfl

theorem reads_fractionPart :
    Reads (SomeDigits OptionalExponent) (fractionPart negative significand shift) := by
  intro cs x rest h
  rw [fractionPart_eq_ok_iff] at h
  obtain ⟨hsome, hexp⟩ := h
  obtain ⟨ds, hds, hdigits, hcount, hnone, habsorb⟩ := exists_absorb significand 0 cs
  obtain ⟨es, hes, hpassed, hend, hpass⟩ := exists_passDigits 0 (absorb significand 0 cs).2.2
  obtain ⟨token, htoken, hgrammar, hmore⟩ := reads_withExponent _ _ _ hexp
  have hne : ds ++ es ≠ [] := by
    intro hnil
    obtain ⟨rfl, rfl⟩ := List.append_eq_nil_iff.mp hnil
    rw [List.nil_append] at hes
    rw [← hes] at hend
    rcases hsome with hsome | hsome
    · exact hsome hcount
    · exact hsome hend
  refine ⟨(ds ++ es) ++ token, ?_, ?_, fun more hstops => ?_⟩
  · rw [htoken] at hes
    rw [hes] at hds
    simpa using hds
  · refine SomeDigits.append hne ?_ (.done hgrammar)
    intro d hd
    exact (List.mem_append.mp hd).elim (hdigits d) (hpassed d)
  · have hlast : NoDigit (token ++ more) := hgrammar.noDigit_append hstops
    have hagain := habsorb (es ++ (token ++ more)) (absorbsNone_append (hes ▸ hnone) hlast)
    have htext : ds ++ es ++ token ++ more = ds ++ (es ++ (token ++ more)) := by
      simp only [List.append_assoc]
    rw [htext, fractionPart_eq_ok_iff, hagain]
    dsimp only
    rw [hpass _ hlast]
    refine ⟨?_, hmore more hstops⟩
    rw [hcount]
    by_cases hnil : ds = []
    · refine Or.inr fun hnodigit => ?_
      cases es with
      | nil => exact hne (by simp [hnil])
      | cons e es =>
        have he := hpassed e List.mem_cons_self
        simp [hnodigit e rfl] at he
    · refine Or.inl ?_
      have := List.length_pos_iff.mpr hnil
      omega

/-- Reading what follows the digits before a point. -/
theorem reads_afterWhole (dropped : Nat) :
    Reads OptionalFraction (afterWhole negative significand dropped) := by
  intro cs x rest h
  by_cases hpoint : ∃ tail, cs = '.' :: tail
  · obtain ⟨tail, rfl⟩ := hpoint
    have hafter (tail : List Char) : afterWhole negative significand dropped ('.' :: tail) =
        fractionPart negative significand dropped tail := rfl
    rw [hafter] at h
    obtain ⟨token, rfl, hgrammar, hmore⟩ := reads_fractionPart _ _ _ h
    refine ⟨'.' :: token, rfl, .some hgrammar, fun more hstops => ?_⟩
    rw [List.cons_append, hafter, hmore more hstops]
  · have hafter {cs : List Char} (hne : ∀ tail, cs ≠ '.' :: tail) :
        afterWhole negative significand dropped cs =
          withExponent negative significand dropped cs := by
      unfold afterWhole
      split
      · exact absurd rfl (hne _)
      · rfl
    rw [hafter fun tail he => hpoint ⟨tail, he⟩] at h
    obtain ⟨token, rfl, hgrammar, hmore⟩ := reads_withExponent _ _ _ h
    refine ⟨token, rfl, .none hgrammar, fun more hstops => ?_⟩
    rw [hafter, hmore more hstops]
    intro tail he
    cases hgrammar with
    | none =>
      rw [List.nil_append] at he
      rw [he] at hstops
      exact (hstops '.' rfl).2.1 rfl
    | some hc _ =>
      obtain ⟨rfl, -⟩ := List.cons.inj he
      rcases hc with hc | hc <;> cases hc

/-- Reading does not come back to where it was. -/
theorem not_reads_self {α : Type} {grammar : List Char → Prop}
    {reader : List Char → Except Error (α × List Char)} (hreads : Reads grammar reader) {c : Char}
    {cs : List Char} {x : α} : reader cs ≠ .ok (x, c :: cs) := by
  intro h
  obtain ⟨token, htoken, -⟩ := hreads _ _ _ h
  have hlength := congrArg List.length htoken
  rw [List.length_append, List.length_cons] at hlength
  omega

/-- What goes on with a point or an exponent is read as something. -/
theorem exists_of_goesOn {dropped : Nat} {cs rest : List Char} {x : Float}
    (hgoes : goesOn cs = true) (h : afterWhole negative significand dropped cs = .ok (x, rest)) :
    ∃ token, cs = token ++ rest ∧ OptionalFraction token ∧
      (∀ more, goesOn (token ++ more) = true) ∧ ∀ more, Stops more →
        afterWhole negative significand dropped (token ++ more) = .ok (x, more) := by
  obtain ⟨token, rfl, hgrammar, hmore⟩ := reads_afterWhole dropped _ _ _ h
  refine ⟨token, rfl, hgrammar, fun more => ?_, hmore⟩
  cases hgrammar with
  | some _ => rfl
  | none hexp =>
    cases hexp with
    | some hc _ => rcases hc with rfl | rfl <;> rfl
    | none =>
      -- nothing would have been read of a text that goes on
      rw [List.nil_append] at hgoes h
      unfold goesOn at hgoes
      split at hgoes
      · exact absurd h (not_reads_self reads_fractionPart)
      · exact absurd h (not_reads_self reads_exponentPart)
      · exact absurd h (not_reads_self reads_exponentPart)
      · cases hgoes

/-- What stops a number does not let it go on. -/
theorem Stops.not_goesOn {cs : List Char} (h : Stops cs) : goesOn cs = false := by
  unfold goesOn
  split
  · exact absurd rfl (h '.' rfl).2.1
  · exact absurd rfl (h 'e' rfl).2.2.1
  · exact absurd rfl (h 'E' rfl).2.2.2
  · rfl

theorem headD_isDigit_iff {cs : List Char} : (cs.headD ' ').isDigit = false ↔ NoDigit cs := by
  cases cs with
  | nil => exact ⟨fun _ => nofun, fun _ => by decide⟩
  | cons c cs => exact ⟨fun h d hd => by cases hd; exact h, fun h => h c rfl⟩

/-- Read what follows the digits before the point if all of them were kept. -/
def afterDigits (negative : Bool) (kept : Nat) (cs : List Char) :
    Except Error (Number × List Char) :=
  if goesOn cs then (afterWhole negative kept 0 cs).map fun found => (.real found.1, found.2)
  else .ok (wholeNumber negative kept, cs)

theorem reads_afterDigits (kept : Nat) : Reads OptionalFraction (afterDigits negative kept) := by
  intro cs x rest h
  unfold afterDigits at h
  by_cases hgoes : goesOn cs = true
  · rw [if_pos hgoes, Results.map_eq_ok_iff] at h
    obtain ⟨⟨y, left⟩, hafter, hpair⟩ := h
    obtain ⟨rfl, rfl⟩ := Prod.mk.inj hpair
    obtain ⟨token, htoken, hgrammar, hagain, hmore⟩ := exists_of_goesOn hgoes hafter
    refine ⟨token, htoken, hgrammar, fun more hstops => ?_⟩
    unfold afterDigits
    rw [if_pos (hagain more), hmore more hstops]
    rfl
  · rw [if_neg hgoes, Except.ok.injEq] at h
    obtain ⟨rfl, rfl⟩ := Prod.mk.inj h
    refine ⟨[], rfl, .none .none, fun more hstops => ?_⟩
    unfold afterDigits
    rw [List.nil_append, if_neg (by simp [hstops.not_goesOn])]

/-- A number with a zero before the point. -/
theorem unsignedNumber_zero (cs : List Char) : unsignedNumber negative ('0' :: cs) =
    if (cs.headD ' ').isDigit then .error .invalidNumber else afterDigits negative 0 cs := by
  rw [unsignedNumber]
  unfold afterDigits
  cases afterWhole negative 0 0 cs <;> rfl

/-- A number with other digits before the point. -/
theorem unsignedNumber_digit {c : Char} (hc : c.isDigit = true) (hne : c ≠ '0') (cs : List Char) :
    unsignedNumber negative (c :: cs) =
      if ((absorb (digitValue c) 0 cs).2.2.headD ' ').isDigit then
        (afterWhole negative (absorb (digitValue c) 0 cs).1
          (passDigits 0 (absorb (digitValue c) 0 cs).2.2).1
          (passDigits 0 (absorb (digitValue c) 0 cs).2.2).2).map fun found =>
            (.real found.1, found.2)
      else
        afterDigits negative (absorb (digitValue c) 0 cs).1 (absorb (digitValue c) 0 cs).2.2 := by
  rw [unsignedNumber]
  · rw [if_pos hc]
    unfold afterDigits
    rcases absorb (digitValue c) 0 cs with ⟨kept, count, left⟩
    dsimp only
    rcases passDigits 0 left with ⟨dropped, left'⟩
    dsimp only
    rcases afterWhole negative kept dropped left' with cause | found <;>
      rcases afterWhole negative kept 0 left with cause | found <;> rfl
  · exact hne

/-- No number starts with anything but a digit. -/
theorem isDigit_of_unsignedNumber {c : Char} {cs rest : List Char} {n : Number}
    (h : unsignedNumber negative (c :: cs) = .ok (n, rest)) : c.isDigit = true := by
  by_cases hzero : c = '0'
  · subst hzero
    decide
  · rw [unsignedNumber] at h
    · refine Decidable.byContradiction fun hc => ?_
      rw [if_neg hc] at h
      cases h
    · exact hzero

section whole

variable {c : Char} {cs rest : List Char} {x : Number}

/-- A number that begins with a zero has no other digit before the point. -/
theorem exists_of_unsignedNumber_zero (h : unsignedNumber negative ('0' :: cs) = .ok (x, rest)) :
    ∃ token, '0' :: cs = token ++ rest ∧ IsUnsigned token ∧
      ∀ more, Stops more → unsignedNumber negative (token ++ more) = .ok (x, more) := by
  rw [unsignedNumber_zero] at h
  by_cases hdigit : (cs.headD ' ').isDigit = true
  · rw [if_pos hdigit] at h
    cases h
  · rw [if_neg hdigit] at h
    obtain ⟨token, rfl, hgrammar, hmore⟩ := reads_afterDigits 0 _ _ _ h
    refine ⟨'0' :: token, rfl, .zero hgrammar, fun more hstops => ?_⟩
    have hnone := headD_isDigit_iff.mpr (hgrammar.noDigit_append hstops)
    rw [List.cons_append, unsignedNumber_zero, if_neg (Bool.eq_false_iff.mp hnone),
      hmore more hstops]

/-- A number all of whose digits before the point fit. -/
theorem exists_of_unsignedNumber_fits (hc : c.isDigit = true) (hzero : c ≠ '0')
    (hdigit : ¬((absorb (digitValue c) 0 cs).2.2.headD ' ').isDigit = true)
    (h : unsignedNumber negative (c :: cs) = .ok (x, rest)) :
    ∃ token, c :: cs = token ++ rest ∧ IsUnsigned token ∧
      ∀ more, Stops more → unsignedNumber negative (token ++ more) = .ok (x, more) := by
  obtain ⟨ds, hds, hdigits, -, -, habsorb⟩ := exists_absorb (digitValue c) 0 cs
  rw [unsignedNumber_digit hc hzero, if_neg hdigit] at h
  obtain ⟨token, htoken, hgrammar, hmore⟩ := reads_afterDigits _ _ _ _ h
  refine ⟨c :: (ds ++ token), ?_, ?_, fun more hstops => ?_⟩
  · rw [htoken] at hds
    simpa using hds
  · exact .digits hc hzero (Digits.append hdigits (.done hgrammar))
  · have hlast := hgrammar.noDigit_append hstops
    have hagain := habsorb (token ++ more) (hlast.absorbsNone _)
    rw [List.cons_append, List.append_assoc, unsignedNumber_digit hc hzero, hagain]
    dsimp only
    rw [if_neg (Bool.eq_false_iff.mp (headD_isDigit_iff.mpr hlast)), hmore more hstops]

/-- A number with digits before the point that do not fit: they are passed over. -/
theorem exists_of_unsignedNumber_passes (hc : c.isDigit = true) (hzero : c ≠ '0')
    (hdigit : ((absorb (digitValue c) 0 cs).2.2.headD ' ').isDigit = true)
    (h : unsignedNumber negative (c :: cs) = .ok (x, rest)) :
    ∃ token, c :: cs = token ++ rest ∧ IsUnsigned token ∧
      ∀ more, Stops more → unsignedNumber negative (token ++ more) = .ok (x, more) := by
  obtain ⟨ds, hds, hdigits, -, hnone, habsorb⟩ := exists_absorb (digitValue c) 0 cs
  obtain ⟨es, hes, hpassed, hend, hpass⟩ := exists_passDigits 0 (absorb (digitValue c) 0 cs).2.2
  rw [unsignedNumber_digit hc hzero, if_pos hdigit, Results.map_eq_ok_iff] at h
  obtain ⟨⟨y, left⟩, hafter, hpair⟩ := h
  obtain ⟨rfl, rfl⟩ := Prod.mk.inj hpair
  obtain ⟨token, htoken, hgrammar, hmore⟩ := reads_afterWhole _ _ _ _ hafter
  have hfirst (more : List Char) : ((es ++ more).headD ' ').isDigit = true := by
    cases es with
    | nil =>
      rw [List.nil_append] at hes
      rw [← hes] at hend
      exact absurd hdigit (Bool.eq_false_iff.mp (headD_isDigit_iff.mpr hend))
    | cons e es => exact hpassed e List.mem_cons_self
  refine ⟨c :: (ds ++ (es ++ token)), ?_, ?_, fun more hstops => ?_⟩
  · rw [htoken] at hes
    rw [hes] at hds
    simpa using hds
  · exact .digits hc hzero (Digits.append hdigits (Digits.append hpassed (.done hgrammar)))
  · have hlast := hgrammar.noDigit_append hstops
    have hagain := habsorb (es ++ (token ++ more)) (absorbsNone_append (hes ▸ hnone) hlast)
    have htext : c :: (ds ++ (es ++ token)) ++ more = c :: (ds ++ (es ++ (token ++ more))) := by
      simp only [List.cons_append, List.append_assoc]
    rw [htext, unsignedNumber_digit hc hzero, hagain]
    dsimp only
    rw [if_pos (hfirst _), hpass _ hlast]
    dsimp only
    rw [hmore more hstops]
    rfl

end whole

/-- A number without a sign is read exactly if it is one. -/
theorem reads_unsignedNumber : Reads IsUnsigned (unsignedNumber negative) := by
  intro cs x rest h
  cases cs with
  | nil => cases h
  | cons c cs =>
    have hc := isDigit_of_unsignedNumber h
    by_cases hzero : c = '0'
    · subst hzero
      exact exists_of_unsignedNumber_zero h
    by_cases hdigit : ((absorb (digitValue c) 0 cs).2.2.headD ' ').isDigit = true
    · exact exists_of_unsignedNumber_passes hc hzero hdigit h
    · exact exists_of_unsignedNumber_fits hc hzero hdigit h

/-- **A number is read exactly if it is one.** -/
theorem reads_readNumber : Reads IsNumber readNumber := by
  intro cs x rest h
  by_cases hminus : ∃ tail, cs = '-' :: tail
  · obtain ⟨tail, rfl⟩ := hminus
    obtain ⟨token, rfl, hgrammar, hmore⟩ := reads_unsignedNumber _ _ _ h
    exact ⟨'-' :: token, rfl, .negative hgrammar, fun more hstops => hmore more hstops⟩
  · have hread {cs : List Char} (hne : ∀ tail, cs ≠ '-' :: tail) :
        readNumber cs = unsignedNumber false cs := by
      unfold readNumber
      split
      · exact absurd rfl (hne _)
      · rfl
    rw [hread fun tail he => hminus ⟨tail, he⟩] at h
    obtain ⟨token, rfl, hgrammar, hmore⟩ := reads_unsignedNumber _ _ _ h
    refine ⟨token, rfl, .positive hgrammar, fun more hstops => ?_⟩
    rw [hread, hmore more hstops]
    intro tail he
    cases hgrammar with
    | zero _ => cases he
    | digits hc _ _ =>
      obtain ⟨rfl, -⟩ := List.cons.inj he
      exact absurd hc (by decide)

end Lookout.Json
