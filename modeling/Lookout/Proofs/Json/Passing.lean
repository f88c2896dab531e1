import Lookout.Proofs.Json.Steps
/-!
# Passing over a value

The machine that passes over a value holds the open brackets and a state, and these say what has to
come before the value is complete (`Demands`): what completes the part it is in, and behind that
what closes the brackets one after the other (`Closes`).

Nothing is kept of what was read, so the machine is right if one character can be taken from what it
demands, and only then: a step leaves a demand that its character completes (`demands_of_skipStep`),
and on what completes a demand there is such a step (`exists_skipStep`).  Both are said for each
state first; blanks, where the machine waits for something, are the same for all (`Demands.blank`).
By induction on the text
what is passed over is what was demanded (`demands_of_skipFrom`, `skipFrom_of_demands`), so that

* **only values are passed over** (`exists_of_skipValue`), and
* **every value is passed over** (`skipValue_append`), whatever its depth.

A number has no end of its own: behind a value there has to be something that stops one (`Stops`).
-/

namespace Lookout.Json

/-! ### What is still to come -/

/-- What closes some brackets after a value inside them, and the rest behind that. -/
def Closes : List Bracket → List Char → List Char → Prop
  | [], cs, rest => cs = rest
  | .list :: stack, cs, rest =>
    ∃ (after : Blanks) (es : List (Padded Value)) (more : List Char),
      cs = after.chars ++ elementsChars es ++ ']' :: more ∧ Closes stack more rest
  | .object :: stack, cs, rest =>
    ∃ (after : Blanks) (ms : List Member) (more : List Char),
      cs = after.chars ++ membersChars ms ++ '\x7d' :: more ∧ Closes stack more rest

/-- What completes the value that the machine passes over, and the rest behind it. -/
def Demands (state : SkipState) (stack : List Bracket) (cs rest : List Char) : Prop :=
  match state with
  | .value => ∃ (b : Blanks) (v : Value) (more : List Char),
      cs = b.chars ++ v.chars ++ more ∧ Closes stack more rest
  | .firstElement => ∃ (inner : Blanks) (es : List (Padded Value)) (more : List Char),
      cs = inner.chars ++ (elementsChars es).tail ++ ']' :: more ∧ Closes stack.tail more rest
  | .firstKey => ∃ (inner : Blanks) (ms : List Member) (more : List Char),
      cs = inner.chars ++ (membersChars ms).tail ++ '\x7d' :: more ∧ Closes stack.tail more rest
  | .key => ∃ (b : Blanks) (key : List Piece) (after b' : Blanks) (v : Value) (more : List Char),
      cs = b.chars ++ quoted key ++ after.chars ++ ':' :: b'.chars ++ v.chars ++ more ∧
        Closes stack more rest
  | .inKey q => ∃ (ps : List Piece) (after b : Blanks) (v : Value) (more : List Char),
      q.pending ++ cs =
        piecesChars ps ++ '"' :: after.chars ++ ':' :: b.chars ++ v.chars ++ more ∧
        Closes stack more rest
  | .colon => ∃ (after b : Blanks) (v : Value) (more : List Char),
      cs = after.chars ++ ':' :: b.chars ++ v.chars ++ more ∧ Closes stack more rest
  | .inString q => ∃ (ps : List Piece) (more : List Char),
      q.pending ++ cs = piecesChars ps ++ '"' :: more ∧ Closes stack more rest
  | .inNumber s => ∃ token more, cs = token ++ more ∧ s.Rest token ∧ Closes stack more rest
  | .inWord word => ∃ more, cs = word ++ more ∧ Closes stack more rest
  | .after => Closes stack cs rest

/-- The innermost bracket is the one that the machine is in, and what it is within is not over
yet. -/
def Fits (state : SkipState) (stack : List Bracket) : Prop :=
  match state with
  | .firstElement => ∃ outer, stack = .list :: outer
  | .firstKey | .key | .colon => ∃ outer, stack = .object :: outer
  | .inKey q => q.Fits ∧ ∃ outer, stack = .object :: outer
  | .inString q => q.Fits
  | .inWord word => word ≠ []
  | .after => stack ≠ []
  | .value | .inNumber _ => True

/-- What a step leaves to be completed. -/
def SkipStep.Left (out : SkipStep) (c : Char) (cs rest : List Char) : Prop :=
  match out with
  | .goOn state stack => Demands state stack cs rest
  | .doneWith => cs = rest
  | .doneBefore => c :: cs = rest

variable {state : SkipState} {stack : List Bracket} {c : Char} {cs rest : List Char}
  {out : SkipStep}

/-- Blanks may stand after a value inside a bracket. -/
theorem Closes.blank {bracket : Bracket} (hc : isBlank c = true)
    (h : Closes (bracket :: stack) cs rest) : Closes (bracket :: stack) (c :: cs) rest := by
  cases bracket with
  | list =>
    obtain ⟨after, es, more, rfl, hmore⟩ := h
    exact ⟨.cons c hc after, es, more, rfl, hmore⟩
  | object =>
    obtain ⟨after, ms, more, rfl, hmore⟩ := h
    exact ⟨.cons c hc after, ms, more, rfl, hmore⟩

/-- After a value that has ended, what is left closes the brackets. -/
theorem closes_of_valueEnded (h : (valueEnded stack).Left c cs rest) : Closes stack cs rest := by
  cases stack with
  | nil => exact h
  | cons bracket stack => exact h

/-- What follows a value inside a bracket closes it. -/
theorem closes_of_afterValue {bracket : Bracket}
    (hstep : afterValue bracket stack c = .ok out) (h : out.Left c cs rest) :
    Closes (bracket :: stack) (c :: cs) rest := by
  unfold afterValue at hstep
  by_cases hblank : isBlank c = true
  · rw [if_pos hblank] at hstep
    cases hstep
    exact Closes.blank hblank h
  rw [if_neg hblank] at hstep
  cases bracket with
  | list =>
    dsimp only at hstep
    split at hstep
    · rename_i hcomma
      cases hstep
      obtain ⟨b, v, more, rfl, after, es, more', rfl, hmore⟩ := h
      refine ⟨.none, ⟨b, v, after⟩ :: es, more', ?_, hmore⟩
      simp [elementsChars, (by simpa using hcomma : c = ',')]
    · split at hstep
      · rename_i hend
        cases hstep
        exact ⟨.none, [], cs, by simp [elementsChars, (by simpa using hend : c = ']')],
          closes_of_valueEnded h⟩
      · cases hstep
  | object =>
    dsimp only at hstep
    split at hstep
    · rename_i hcomma
      cases hstep
      obtain ⟨b, key, after, b', v, more, rfl, after', ms, more', rfl, hmore⟩ := h
      refine ⟨.none, (⟨b, key, after⟩, ⟨b', v, after'⟩) :: ms, more', ?_, hmore⟩
      simp [membersChars, (by simpa using hcomma : c = ',')]
    · split at hstep
      · rename_i hend
        cases hstep
        exact ⟨.none, [], cs, by simp [membersChars, (by simpa using hend : c = '\x7d')],
          closes_of_valueEnded h⟩
      · cases hstep

/-- What follows a value closes the brackets around it. -/
theorem closes_of_skipStep_after (hstep : skipStep .after stack c = .ok out)
    (h : out.Left c cs rest) : Closes stack (c :: cs) rest := by
  cases stack with
  | nil =>
    cases hstep
    exact h
  | cons bracket stack => exact closes_of_afterValue hstep h

/-- A value is completed by what its first character demands. -/
theorem exists_value_of_startValue (hstep : startValue stack c = .ok out)
    (h : out.Left c cs rest) :
    ∃ (v : Value) (more : List Char), c :: cs = v.chars ++ more ∧ Closes stack more rest := by
  unfold startValue at hstep
  by_cases hn : c = 'n'
  · subst hn
    cases hstep
    obtain ⟨more, rfl, hmore⟩ := h
    exact ⟨.null, more, rfl, hmore⟩
  by_cases ht : c = 't'
  · subst ht
    cases hstep
    obtain ⟨more, rfl, hmore⟩ := h
    exact ⟨.boolean true, more, rfl, hmore⟩
  by_cases hf : c = 'f'
  · subst hf
    cases hstep
    obtain ⟨more, rfl, hmore⟩ := h
    exact ⟨.boolean false, more, rfl, hmore⟩
  by_cases hminus : c = '-'
  · subst hminus
    cases hstep
    obtain ⟨token, more, rfl, htoken, hmore⟩ := h
    exact ⟨.number ('-' :: token) (.negative htoken), more, rfl, hmore⟩
  by_cases hzero : c = '0'
  · subst hzero
    cases hstep
    obtain ⟨token, more, rfl, htoken, hmore⟩ := h
    exact ⟨.number ('0' :: token) (.positive (.zero htoken)), more, rfl, hmore⟩
  by_cases hdigit : c.isDigit = true
  · simp [hn, ht, hf, hminus, hzero, hdigit] at hstep
    subst hstep
    obtain ⟨token, more, rfl, htoken, hmore⟩ := h
    exact ⟨.number (c :: token) (.positive (.digits hdigit hzero htoken)), more, rfl, hmore⟩
  by_cases hquote : c = '"'
  · subst hquote
    cases hstep
    obtain ⟨ps, more, htext, hmore⟩ := h
    refine ⟨.text ps, more, ?_, hmore⟩
    rw [show cs = piecesChars ps ++ '"' :: more from htext]
    simp [Value.chars, quoted]
  by_cases hlist : c = '['
  · subst hlist
    cases hstep
    obtain ⟨inner, es, more, rfl, hmore⟩ := h
    exact ⟨.list inner es, more, by simp [Value.chars], hmore⟩
  by_cases hobject : c = '\x7b'
  · subst hobject
    cases hstep
    obtain ⟨inner, ms, more, rfl, hmore⟩ := h
    exact ⟨.object inner ms, more, by simp [Value.chars], hmore⟩
  · simp [hn, ht, hf, hminus, hzero, hdigit, hquote, hlist, hobject] at hstep

theorem skipStep_inKey (q : QuoteState) : skipStep (.inKey q) stack c =
    (q.step c).map fun next => next.elim (.goOn .colon stack) fun q => .goOn (.inKey q) stack := by
  rcases h : q.step c with e | _ | next <;>
    simp [skipStep, h, bind, Except.bind, Except.map, pure, Except.pure]

theorem skipStep_inString (q : QuoteState) : skipStep (.inString q) stack c =
    (q.step c).map fun next => next.elim (valueEnded stack) fun q => .goOn (.inString q) stack := by
  rcases h : q.step c with e | _ | next <;>
    simp [skipStep, h, bind, Except.bind, Except.map, pure, Except.pure]

/-- Where a number has ended the machine acts as after any other value. -/
theorem skipStep_inNumber (s : NumberState) : skipStep (.inNumber s) stack c =
    (s.step c).bind fun next =>
      next.elim (skipStep .after stack c) fun s => .ok (.goOn (.inNumber s) stack) := by
  rcases h : s.step c with e | _ | next
  · simp [skipStep, h, bind, Except.bind]
  · cases stack <;> simp [skipStep, h, bind, Except.bind, pure, Except.pure]
  · simp [skipStep, h, bind, Except.bind, pure, Except.pure]

section past

variable (hblank : isBlank c ≠ true)

include hblank

/-- Past the blanks a value begins. -/
theorem skipStep_value : skipStep .value stack c = startValue stack c := if_neg hblank

/-- Past the blanks a list that has just been begun ends, or a value begins. -/
theorem skipStep_firstElement : skipStep .firstElement stack c =
    if c = ']' then .ok (valueEnded stack.tail) else skipStep .value stack c := by
  simp [skipStep, hblank]

/-- Past the blanks there is a quote before a key. -/
theorem skipStep_key : skipStep .key stack c =
    if c = '"' then .ok (.goOn (.inKey .plain) stack) else .error .keyNotString := by
  simp [skipStep, hblank]

/-- Past the blanks an object that has just been begun ends, or a key begins. -/
theorem skipStep_firstKey : skipStep .firstKey stack c =
    if c = '\x7d' then .ok (valueEnded stack.tail) else skipStep .key stack c := by
  simp [skipStep, hblank]

/-- Past the blanks there is a colon before a value. -/
theorem skipStep_colon : skipStep .colon stack c =
    if c = ':' then .ok (.goOn .value stack) else .error .expectedColon := by
  simp [skipStep, hblank]

end past

/-! ### What one character leaves -/

/-- Before a value, a key, a colon and the end of what has just been begun there may be blanks. -/
def SkipState.waits : SkipState → Bool
  | .value | .firstElement | .firstKey | .key | .colon => true
  | .inKey _ | .inString _ | .inNumber _ | .inWord _ | .after => false

/-- Blanks change nothing where the machine waits. -/
theorem skipStep_of_blank (hwaits : state.waits = true) (hblank : isBlank c = true) :
    skipStep state stack c = .ok (.goOn state stack) := by
  unfold skipStep
  cases state with
  | value | firstElement | firstKey | key | colon => exact if_pos hblank
  | _ => cases hwaits

/-- And they may stand before what completes it. -/
theorem Demands.blank (hwaits : state.waits = true) (hblank : isBlank c = true)
    (h : Demands state stack cs rest) : Demands state stack (c :: cs) rest := by
  cases state with
  | value =>
    obtain ⟨b, v, more, rfl, hmore⟩ := h
    exact ⟨.cons c hblank b, v, more, rfl, hmore⟩
  | firstElement =>
    obtain ⟨inner, es, more, rfl, hmore⟩ := h
    exact ⟨.cons c hblank inner, es, more, rfl, hmore⟩
  | firstKey =>
    obtain ⟨inner, ms, more, rfl, hmore⟩ := h
    exact ⟨.cons c hblank inner, ms, more, rfl, hmore⟩
  | key =>
    obtain ⟨b, key, after, b', v, more, rfl, hmore⟩ := h
    exact ⟨.cons c hblank b, key, after, b', v, more, rfl, hmore⟩
  | colon =>
    obtain ⟨after, b, v, more, rfl, hmore⟩ := h
    exact ⟨.cons c hblank after, b, v, more, rfl, hmore⟩
  | _ => cases hwaits

/-- A value begins. -/
theorem demands_of_skipStep_value (hblank : isBlank c ≠ true)
    (hstep : skipStep .value stack c = .ok out) (h : out.Left c cs rest) :
    Demands .value stack (c :: cs) rest := by
  rw [skipStep_value hblank] at hstep
  obtain ⟨v, more, htext, hmore⟩ := exists_value_of_startValue hstep h
  exact ⟨.none, v, more, htext, hmore⟩

/-- A list that has just been begun ends, or its first element begins. -/
theorem demands_of_skipStep_firstElement {outer : List Bracket} (hblank : isBlank c ≠ true)
    (hstep : skipStep .firstElement (.list :: outer) c = .ok out) (h : out.Left c cs rest) :
    Demands .firstElement (.list :: outer) (c :: cs) rest := by
  rw [skipStep_firstElement hblank] at hstep
  split at hstep
  · rename_i hend
    subst hend
    cases hstep
    exact ⟨.none, [], cs, rfl, closes_of_valueEnded h⟩
  · obtain ⟨b, v, more, htext, after, es, more', rfl, hmore⟩ :=
      demands_of_skipStep_value hblank hstep h
    exact ⟨.none, ⟨b, v, after⟩ :: es, more', by simp [htext, elementsChars], hmore⟩

/-- A key begins. -/
theorem demands_of_skipStep_key (hblank : isBlank c ≠ true)
    (hstep : skipStep .key stack c = .ok out) (h : out.Left c cs rest) :
    Demands .key stack (c :: cs) rest := by
  rw [skipStep_key hblank] at hstep
  split at hstep
  · rename_i hquote
    subst hquote
    cases hstep
    obtain ⟨ps, after, b, v, more, htext, hmore⟩ := h
    refine ⟨.none, ps, after, b, v, more, ?_, hmore⟩
    rw [show cs = _ from htext]
    simp [quoted]
  · cases hstep

/-- An object that has just been begun ends, or its first key begins. -/
theorem demands_of_skipStep_firstKey {outer : List Bracket} (hblank : isBlank c ≠ true)
    (hstep : skipStep .firstKey (.object :: outer) c = .ok out) (h : out.Left c cs rest) :
    Demands .firstKey (.object :: outer) (c :: cs) rest := by
  rw [skipStep_firstKey hblank] at hstep
  split at hstep
  · rename_i hend
    subst hend
    cases hstep
    exact ⟨.none, [], cs, rfl, closes_of_valueEnded h⟩
  · obtain ⟨b, key, after, b', v, more, htext, after', ms, more', rfl, hmore⟩ :=
      demands_of_skipStep_key hblank hstep h
    exact ⟨.none, (⟨b, key, after⟩, ⟨b', v, after'⟩) :: ms, more',
      by simp [htext, membersChars], hmore⟩

/-- A key goes on or ends. -/
theorem demands_of_skipStep_inKey {q : QuoteState}
    (hstep : skipStep (.inKey q) stack c = .ok out) (h : out.Left c cs rest) :
    Demands (.inKey q) stack (c :: cs) rest := by
  rw [skipStep_inKey, Results.map_eq_ok_iff] at hstep
  obtain ⟨next, hq, rfl⟩ := hstep
  cases next with
  | none =>
    obtain ⟨rfl, rfl⟩ := QuoteState.eq_plain_of_step hq
    obtain ⟨after, b, v, more, rfl, hmore⟩ := h
    exact ⟨[], after, b, v, more, by simp [QuoteState.pending, piecesChars], hmore⟩
  | some next =>
    obtain ⟨ps, after, b, v, more, htext, hmore⟩ := h
    simp only [List.append_assoc, List.cons_append] at htext
    obtain ⟨ps', hps⟩ := QuoteState.exists_pieces_of_step hq htext
    exact ⟨ps', after, b, v, more, by simpa using hps, hmore⟩

/-- A colon comes. -/
theorem demands_of_skipStep_colon (hblank : isBlank c ≠ true)
    (hstep : skipStep .colon stack c = .ok out) (h : out.Left c cs rest) :
    Demands .colon stack (c :: cs) rest := by
  rw [skipStep_colon hblank] at hstep
  split at hstep
  · rename_i hcolon
    subst hcolon
    cases hstep
    obtain ⟨b, v, more, rfl, hmore⟩ := h
    exact ⟨.none, b, v, more, rfl, hmore⟩
  · cases hstep

/-- A string goes on or ends. -/
theorem demands_of_skipStep_inString {q : QuoteState}
    (hstep : skipStep (.inString q) stack c = .ok out) (h : out.Left c cs rest) :
    Demands (.inString q) stack (c :: cs) rest := by
  rw [skipStep_inString, Results.map_eq_ok_iff] at hstep
  obtain ⟨next, hq, rfl⟩ := hstep
  cases next with
  | none =>
    obtain ⟨rfl, rfl⟩ := QuoteState.eq_plain_of_step hq
    exact ⟨[], cs, rfl, closes_of_valueEnded h⟩
  | some next =>
    obtain ⟨ps, more, htext, hmore⟩ := h
    obtain ⟨ps', hps⟩ := QuoteState.exists_pieces_of_step hq htext
    exact ⟨ps', more, hps, hmore⟩

/-- A number goes on, or it has ended before. -/
theorem demands_of_skipStep_inNumber {s : NumberState}
    (hstep : skipStep (.inNumber s) stack c = .ok out) (h : out.Left c cs rest) :
    Demands (.inNumber s) stack (c :: cs) rest := by
  rw [skipStep_inNumber, Results.bind_eq_ok_iff] at hstep
  obtain ⟨next, hs, hnext⟩ := hstep
  cases next with
  | none =>
    exact ⟨[], c :: cs, rfl, NumberState.rest_nil_iff.mpr (NumberState.complete_of_step hs),
      closes_of_skipStep_after hnext h⟩
  | some next =>
    cases hnext
    obtain ⟨token, more, rfl, htoken, hmore⟩ := h
    exact ⟨c :: token, more, rfl, NumberState.rest_cons_iff.mpr ⟨next, hs, htoken⟩, hmore⟩

/-- A word goes on or ends. -/
theorem demands_of_skipStep_inWord {word : List Char}
    (hstep : skipStep (.inWord word) stack c = .ok out) (h : out.Left c cs rest) :
    Demands (.inWord word) stack (c :: cs) rest := by
  cases word with
  | nil => cases hstep
  | cons w ws =>
    unfold skipStep at hstep
    dsimp only at hstep
    by_cases hw : c = w
    · subst hw
      rw [if_neg (by simp)] at hstep
      cases ws with
      | nil =>
        cases hstep
        exact ⟨cs, rfl, closes_of_valueEnded h⟩
      | cons w' ws =>
        cases hstep
        obtain ⟨more, rfl, hmore⟩ := h
        exact ⟨more, rfl, hmore⟩
    · rw [if_pos (by simpa using hw)] at hstep
      cases hstep

/-- **What one character leaves to be completed is completed together with it.** -/
theorem demands_of_skipStep (hfits : Fits state stack) (hstep : skipStep state stack c = .ok out)
    (h : out.Left c cs rest) : Demands state stack (c :: cs) rest := by
  by_cases hpassed : state.waits = true ∧ isBlank c = true
  · obtain ⟨hwaits, hblank⟩ := hpassed
    rw [skipStep_of_blank hwaits hblank] at hstep
    cases hstep
    exact Demands.blank hwaits hblank h
  have hblank (hwaits : state.waits = true) : isBlank c ≠ true := fun hb => hpassed ⟨hwaits, hb⟩
  cases state with
  | value => exact demands_of_skipStep_value (hblank rfl) hstep h
  | firstElement =>
    obtain ⟨outer, rfl⟩ := hfits
    exact demands_of_skipStep_firstElement (hblank rfl) hstep h
  | firstKey =>
    obtain ⟨outer, rfl⟩ := hfits
    exact demands_of_skipStep_firstKey (hblank rfl) hstep h
  | key => exact demands_of_skipStep_key (hblank rfl) hstep h
  | inKey q => exact demands_of_skipStep_inKey hstep h
  | colon => exact demands_of_skipStep_colon (hblank rfl) hstep h
  | inString q => exact demands_of_skipStep_inString hstep h
  | inNumber s => exact demands_of_skipStep_inNumber hstep h
  | inWord word => exact demands_of_skipStep_inWord hstep h
  | after => exact closes_of_skipStep_after hstep h

section fits

variable {next : SkipState} {stack' : List Bracket}

theorem fits_of_valueEnded (h : valueEnded stack = .goOn next stack') : Fits next stack' := by
  cases stack with
  | nil => cases h
  | cons bracket stack =>
    cases h
    exact List.cons_ne_nil bracket stack

theorem fits_of_startValue (h : startValue stack c = .ok (.goOn next stack')) :
    Fits next stack' := by
  unfold startValue at h
  repeat' split at h
  all_goals cases h
  all_goals first
    | trivial
    | exact List.cons_ne_nil _ _
    | exact ⟨_, rfl⟩

theorem fits_of_afterValue {bracket : Bracket}
    (h : afterValue bracket stack c = .ok (.goOn next stack')) : Fits next stack' := by
  unfold afterValue at h
  split at h
  · cases h
    exact List.cons_ne_nil bracket stack
  cases bracket with
  | list =>
    dsimp only at h
    split at h
    · cases h
      trivial
    · split at h
      · exact fits_of_valueEnded (Except.ok.inj h)
      · cases h
  | object =>
    dsimp only at h
    split at h
    · cases h
      exact ⟨stack, rfl⟩
    · split at h
      · exact fits_of_valueEnded (Except.ok.inj h)
      · cases h

theorem fits_of_skipStep_after (h : skipStep .after stack c = .ok (.goOn next stack')) :
    Fits next stack' := by
  cases stack with
  | nil => cases h
  | cons bracket stack => exact fits_of_afterValue h

theorem fits_of_skipStep_value (hblank : isBlank c ≠ true)
    (h : skipStep .value stack c = .ok (.goOn next stack')) : Fits next stack' := by
  rw [skipStep_value hblank] at h
  exact fits_of_startValue h

theorem fits_of_skipStep_firstElement (hblank : isBlank c ≠ true)
    (h : skipStep .firstElement stack c = .ok (.goOn next stack')) : Fits next stack' := by
  rw [skipStep_firstElement hblank] at h
  split at h
  · exact fits_of_valueEnded (Except.ok.inj h)
  · exact fits_of_skipStep_value hblank h

theorem fits_of_skipStep_key (hblank : isBlank c ≠ true) (hfits : Fits .key stack)
    (h : skipStep .key stack c = .ok (.goOn next stack')) : Fits next stack' := by
  rw [skipStep_key hblank] at h
  split at h
  · cases h
    exact ⟨trivial, hfits⟩
  · cases h

theorem fits_of_skipStep_firstKey (hblank : isBlank c ≠ true) (hfits : Fits .firstKey stack)
    (h : skipStep .firstKey stack c = .ok (.goOn next stack')) : Fits next stack' := by
  rw [skipStep_firstKey hblank] at h
  split at h
  · exact fits_of_valueEnded (Except.ok.inj h)
  · exact fits_of_skipStep_key hblank hfits h

theorem fits_of_skipStep_inKey {q : QuoteState} (hfits : Fits (.inKey q) stack)
    (h : skipStep (.inKey q) stack c = .ok (.goOn next stack')) : Fits next stack' := by
  rw [skipStep_inKey, Results.map_eq_ok_iff] at h
  obtain ⟨after, hq, hnext⟩ := h
  cases after with
  | none =>
    cases hnext
    exact hfits.2
  | some q' =>
    cases hnext
    exact ⟨QuoteState.fits_of_step hq, hfits.2⟩

theorem fits_of_skipStep_colon (hblank : isBlank c ≠ true)
    (h : skipStep .colon stack c = .ok (.goOn next stack')) : Fits next stack' := by
  rw [skipStep_colon hblank] at h
  split at h
  · cases h
    trivial
  · cases h

theorem fits_of_skipStep_inString {q : QuoteState}
    (h : skipStep (.inString q) stack c = .ok (.goOn next stack')) : Fits next stack' := by
  rw [skipStep_inString, Results.map_eq_ok_iff] at h
  obtain ⟨after, hq, hnext⟩ := h
  cases after with
  | none => exact fits_of_valueEnded hnext
  | some q' =>
    cases hnext
    exact QuoteState.fits_of_step hq

theorem fits_of_skipStep_inNumber {s : NumberState}
    (h : skipStep (.inNumber s) stack c = .ok (.goOn next stack')) : Fits next stack' := by
  rw [skipStep_inNumber, Results.bind_eq_ok_iff] at h
  obtain ⟨after, -, hnext⟩ := h
  cases after with
  | none => exact fits_of_skipStep_after hnext
  | some s' =>
    cases hnext
    trivial

theorem fits_of_skipStep_inWord {word : List Char}
    (h : skipStep (.inWord word) stack c = .ok (.goOn next stack')) : Fits next stack' := by
  cases word with
  | nil => cases h
  | cons w ws =>
    unfold skipStep at h
    dsimp only at h
    split at h
    · cases h
    · split at h
      · exact fits_of_valueEnded (Except.ok.inj h)
      · rename_i hmore
        cases h
        exact (by simpa using hmore : ws ≠ [])

/-- The machine goes on where it may stand. -/
theorem fits_of_skipStep (hfits : Fits state stack)
    (hstep : skipStep state stack c = .ok (.goOn next stack')) : Fits next stack' := by
  by_cases hpassed : state.waits = true ∧ isBlank c = true
  · rw [skipStep_of_blank hpassed.1 hpassed.2] at hstep
    cases hstep
    exact hfits
  have hblank (hwaits : state.waits = true) : isBlank c ≠ true := fun hb => hpassed ⟨hwaits, hb⟩
  cases state with
  | value => exact fits_of_skipStep_value (hblank rfl) hstep
  | firstElement => exact fits_of_skipStep_firstElement (hblank rfl) hstep
  | firstKey => exact fits_of_skipStep_firstKey (hblank rfl) hfits hstep
  | key => exact fits_of_skipStep_key (hblank rfl) hfits hstep
  | inKey q => exact fits_of_skipStep_inKey hfits hstep
  | colon => exact fits_of_skipStep_colon (hblank rfl) hstep
  | inString q => exact fits_of_skipStep_inString hstep
  | inNumber s => exact fits_of_skipStep_inNumber hstep
  | inWord word => exact fits_of_skipStep_inWord hstep
  | after => exact fits_of_skipStep_after hstep

end fits

/-- Where the text may end, nothing is missing. -/
theorem demands_of_skipEnd (h : skipEnd state stack = .ok ()) : Demands state stack [] [] := by
  cases state with
  | inNumber s =>
    unfold skipEnd at h
    dsimp only at h
    split at h
    · cases h
    · rename_i hcomplete
      cases stack with
      | nil => exact ⟨[], [], rfl, NumberState.rest_nil_iff.mpr (by simpa using hcomplete), rfl⟩
      | cons bracket stack => cases h
  | _ => cases h

/-- **What is passed over is complete.** -/
theorem demands_of_skipFrom (hfits : Fits state stack) (h : skipFrom state stack cs = .ok rest) :
    Demands state stack cs rest := by
  induction cs generalizing state stack with
  | nil =>
    unfold skipFrom at h
    obtain ⟨⟨⟩, hend, hrest⟩ := Results.bind_eq_ok_iff.mp h
    cases hrest
    exact demands_of_skipEnd hend
  | cons c cs ih =>
    unfold skipFrom at h
    cases hstep : skipStep state stack c with
    | error e => simp [hstep] at h
    | ok out =>
      rw [hstep] at h
      refine demands_of_skipStep hfits hstep ?_
      cases out with
      | doneWith => exact Except.ok.inj h
      | doneBefore => exact Except.ok.inj h
      | goOn next stack' => exact ih (fits_of_skipStep hfits hstep) h

/-! ### What is complete is passed over -/

theorem stops_cons_of_not_isDigit {c : Char} {cs : List Char} (hd : c.isDigit = false)
    (hpoint : c ≠ '.') (he : c ≠ 'e') (hE : c ≠ 'E') : Stops (c :: cs) := by
  intro d hd'
  cases hd'
  exact ⟨hd, hpoint, he, hE⟩

/-- What stops a number does so behind blanks, and blanks do. -/
theorem Stops.blanks_append {cs : List Char} (h : Stops cs) (b : Blanks) :
    Stops (b.chars ++ cs) := by
  obtain ⟨bs, hbs⟩ := b
  cases bs with
  | nil => exact h
  | cons c bs =>
    have hblank := hbs c List.mem_cons_self
    simp only [isBlank, Bool.or_eq_true, beq_iff_eq] at hblank
    rcases hblank with ((rfl | rfl) | rfl) | rfl <;>
      exact stops_cons_of_not_isDigit rfl (by decide) (by decide) (by decide)

/-- What follows an element of a list does not go on with a number. -/
theorem stops_elements (b : Blanks) (es : List (Padded Value)) (more : List Char) :
    Stops (b.chars ++ (elementsChars es ++ ']' :: more)) := by
  refine Stops.blanks_append ?_ b
  cases es with
  | nil => exact stops_cons_of_not_isDigit rfl (by decide) (by decide) (by decide)
  | cons e es =>
    simp only [elementsChars, List.cons_append]
    exact stops_cons_of_not_isDigit rfl (by decide) (by decide) (by decide)

/-- What follows a member of an object does not go on with a number. -/
theorem stops_members (b : Blanks) (ms : List Member) (more : List Char) :
    Stops (b.chars ++ (membersChars ms ++ '\x7d' :: more)) := by
  refine Stops.blanks_append ?_ b
  cases ms with
  | nil => exact stops_cons_of_not_isDigit rfl (by decide) (by decide) (by decide)
  | cons m ms =>
    simp only [membersChars, List.cons_append]
    exact stops_cons_of_not_isDigit rfl (by decide) (by decide) (by decide)

/-- What closes brackets does not go on with a number. -/
theorem Closes.stops (hrest : Stops rest) (h : Closes stack cs rest) : Stops cs := by
  cases stack with
  | nil => exact (show cs = rest from h) ▸ hrest
  | cons bracket stack =>
    cases bracket with
    | list =>
      obtain ⟨after, es, more, rfl, -⟩ := h
      rw [List.append_assoc]
      exact stops_elements after es more
    | object =>
      obtain ⟨after, ms, more, rfl, -⟩ := h
      rw [List.append_assoc]
      exact stops_members after ms more

/-- A character is the first one of some blanks, or there are none. -/
theorem Blanks.cons_eq_append {b : Blanks} {c : Char} {cs ds : List Char}
    (h : c :: cs = b.chars ++ ds) :
    (isBlank c = true ∧ ∃ b' : Blanks, cs = b'.chars ++ ds) ∨ c :: cs = ds := by
  obtain ⟨bs, hbs⟩ := b
  cases bs with
  | nil => exact Or.inr h
  | cons d bs =>
    cases h
    have hrest : ∀ d ∈ bs, isBlank d = true := fun d hd => hbs d (List.mem_cons_of_mem c hd)
    exact Or.inl ⟨hbs c List.mem_cons_self, ⟨bs, hrest⟩, rfl⟩

theorem left_valueEnded (h : Closes stack cs rest) : (valueEnded stack).Left c cs rest := by
  cases stack with
  | nil => exact h
  | cons bracket stack => exact h

/-- What closes a bracket is taken after a value inside it. -/
theorem exists_afterValue {bracket : Bracket} (h : Closes (bracket :: stack) (c :: cs) rest) :
    ∃ out, afterValue bracket stack c = .ok out ∧ out.Left c cs rest := by
  cases bracket with
  | list =>
    obtain ⟨after, es, more, htext, hmore⟩ := h
    rw [List.append_assoc] at htext
    rcases Blanks.cons_eq_append htext with ⟨hblank, b, rfl⟩ | htext
    · refine ⟨_, if_pos hblank, b, es, more, by simp, hmore⟩
    · cases es with
      | nil =>
        cases htext
        exact ⟨_, rfl, left_valueEnded hmore⟩
      | cons e es =>
        simp only [elementsChars, List.cons_append, List.append_assoc] at htext
        cases htext
        exact ⟨_, rfl, e.before, e.inner, e.after.chars ++ elementsChars es ++ ']' :: more,
          by simp, e.after, es, more, rfl, hmore⟩
  | object =>
    obtain ⟨after, ms, more, htext, hmore⟩ := h
    rw [List.append_assoc] at htext
    rcases Blanks.cons_eq_append htext with ⟨hblank, b, rfl⟩ | htext
    · refine ⟨_, if_pos hblank, b, ms, more, by simp, hmore⟩
    · cases ms with
      | nil =>
        cases htext
        exact ⟨_, rfl, left_valueEnded hmore⟩
      | cons m ms =>
        simp only [membersChars, List.cons_append, List.append_assoc] at htext
        cases htext
        exact ⟨_, rfl, m.1.before, m.1.inner, m.1.after, m.2.before, m.2.inner,
          m.2.after.chars ++ membersChars ms ++ '\x7d' :: more, by simp, m.2.after, ms, more, rfl,
          hmore⟩

/-- What comes after a value is taken. -/
theorem exists_skipStep_after (h : Closes stack (c :: cs) rest) :
    ∃ out, skipStep .after stack c = .ok out ∧ out.Left c cs rest := by
  cases stack with
  | nil => exact ⟨_, rfl, h⟩
  | cons bracket stack => exact exists_afterValue h

theorem not_isBlank_of_isDigit (hd : c.isDigit = true) : isBlank c = false := by
  have hspace : c ≠ ' ' := ne_of_isDigit hd rfl
  have hline : c ≠ '\n' := ne_of_isDigit hd rfl
  have htab : c ≠ '\t' := ne_of_isDigit hd rfl
  have hreturn : c ≠ '\r' := ne_of_isDigit hd rfl
  simp [isBlank, hspace, hline, htab, hreturn]

/-- The first character of a value is no blank, ends nothing and is taken. -/
theorem exists_startValue {v : Value} {more : List Char} (htext : c :: cs = v.chars ++ more)
    (hmore : Closes stack more rest) :
    isBlank c = false ∧ c ≠ ']' ∧ ∃ out, startValue stack c = .ok out ∧ out.Left c cs rest := by
  cases v with
  | null =>
    cases htext
    exact ⟨rfl, by decide, _, rfl, more, rfl, hmore⟩
  | boolean value =>
    cases value with
    | true =>
      cases htext
      exact ⟨rfl, by decide, _, rfl, more, rfl, hmore⟩
    | false =>
      cases htext
      exact ⟨rfl, by decide, _, rfl, more, rfl, hmore⟩
  | number token h =>
    have hunsigned {token : List Char} (hu : IsUnsigned token) (htext : c :: cs = token ++ more) :
        isBlank c = false ∧ c ≠ ']' ∧
          ∃ out, startValue stack c = .ok out ∧ out.Left c cs rest := by
      cases hu with
      | zero h =>
        cases htext
        exact ⟨rfl, by decide, _, rfl, _, more, rfl, h, hmore⟩
      | digits hd hne h =>
        cases htext
        have hn : c ≠ 'n' := ne_of_isDigit hd rfl
        have ht : c ≠ 't' := ne_of_isDigit hd rfl
        have hf : c ≠ 'f' := ne_of_isDigit hd rfl
        have hminus : c ≠ '-' := ne_of_isDigit hd rfl
        refine ⟨not_isBlank_of_isDigit hd, ne_of_isDigit hd rfl, .goOn (.inNumber .whole) stack,
          ?_, _, more, rfl, h, hmore⟩
        simp [startValue, hn, ht, hf, hminus, hne, hd]
    cases h with
    | positive hu => exact hunsigned hu htext
    | negative hu =>
      cases htext
      exact ⟨rfl, by decide, _, rfl, _, more, rfl, hu, hmore⟩
  | text ps =>
    simp only [Value.chars, quoted, List.cons_append, List.append_assoc, List.nil_append] at htext
    cases htext
    exact ⟨rfl, by decide, _, rfl, ps, more, rfl, hmore⟩
  | list inner es =>
    simp only [Value.chars, List.cons_append, List.append_assoc, List.nil_append] at htext
    cases htext
    exact ⟨rfl, by decide, _, rfl, inner, es, more, by simp, hmore⟩
  | object inner ms =>
    simp only [Value.chars, List.cons_append, List.append_assoc, List.nil_append] at htext
    cases htext
    exact ⟨rfl, by decide, _, rfl, inner, ms, more, by simp, hmore⟩

/-- The first character of a value is taken, or a blank before it. -/
theorem exists_skipStep_value (h : Demands .value stack (c :: cs) rest) :
    ∃ out, skipStep .value stack c = .ok out ∧ out.Left c cs rest := by
  obtain ⟨b, v, more, htext, hmore⟩ := h
  rw [List.append_assoc] at htext
  unfold skipStep
  rcases Blanks.cons_eq_append htext with ⟨hblank, b', rfl⟩ | htext
  · exact ⟨_, if_pos hblank, b', v, more, by simp, hmore⟩
  · obtain ⟨hblank, -, out, hout, hleft⟩ := exists_startValue htext hmore
    exact ⟨out, by simp [hblank, hout], hleft⟩

/-- What comes right after the start of a list is taken. -/
theorem exists_skipStep_firstElement {outer : List Bracket}
    (h : Demands .firstElement (.list :: outer) (c :: cs) rest) :
    ∃ out, skipStep .firstElement (.list :: outer) c = .ok out ∧ out.Left c cs rest := by
  obtain ⟨inner, es, more, htext, hmore⟩ := h
  rw [List.append_assoc] at htext
  unfold skipStep
  rcases Blanks.cons_eq_append htext with ⟨hblank, b, rfl⟩ | htext
  · exact ⟨_, if_pos hblank, b, es, more, by simp, hmore⟩
  cases es with
  | nil =>
    cases htext
    exact ⟨_, rfl, left_valueEnded hmore⟩
  | cons e es =>
    simp only [elementsChars, List.cons_append, List.append_assoc, List.tail_cons] at htext
    rcases Blanks.cons_eq_append htext with ⟨hblank, b, rfl⟩ | htext
    · exact ⟨_, if_pos hblank, .none, ⟨b, e.inner, e.after⟩ :: es, more,
        by simp [elementsChars], hmore⟩
    · obtain ⟨hblank, hend, out, hout, hleft⟩ :=
        exists_startValue htext
          (show Closes (.list :: outer) _ rest from ⟨e.after, es, more, by simp, hmore⟩)
      exact ⟨out, by simp [hblank, hend, hout], hleft⟩

/-- What comes right after the start of an object is taken. -/
theorem exists_skipStep_firstKey {outer : List Bracket}
    (h : Demands .firstKey (.object :: outer) (c :: cs) rest) :
    ∃ out, skipStep .firstKey (.object :: outer) c = .ok out ∧ out.Left c cs rest := by
  obtain ⟨inner, ms, more, htext, hmore⟩ := h
  rw [List.append_assoc] at htext
  unfold skipStep
  rcases Blanks.cons_eq_append htext with ⟨hblank, b, rfl⟩ | htext
  · exact ⟨_, if_pos hblank, b, ms, more, by simp, hmore⟩
  cases ms with
  | nil =>
    cases htext
    exact ⟨_, rfl, left_valueEnded hmore⟩
  | cons m ms =>
    simp only [membersChars, List.cons_append, List.append_assoc, List.tail_cons] at htext
    rcases Blanks.cons_eq_append htext with ⟨hblank, b, rfl⟩ | htext
    · exact ⟨_, if_pos hblank, .none, (⟨b, m.1.inner, m.1.after⟩, m.2) :: ms, more,
        by simp [membersChars], hmore⟩
    · simp only [quoted, List.cons_append, List.append_assoc] at htext
      cases htext
      exact ⟨_, rfl, m.1.inner, m.1.after, m.2.before, m.2.inner,
        m.2.after.chars ++ membersChars ms ++ '\x7d' :: more, by simp [QuoteState.pending],
        m.2.after, ms, more, rfl, hmore⟩

/-- The first character of a key is taken, or a blank before it. -/
theorem exists_skipStep_key (h : Demands .key stack (c :: cs) rest) :
    ∃ out, skipStep .key stack c = .ok out ∧ out.Left c cs rest := by
  obtain ⟨b, key, after, b', v, more, htext, hmore⟩ := h
  simp only [List.append_assoc] at htext
  unfold skipStep
  rcases Blanks.cons_eq_append htext with ⟨hblank, b, rfl⟩ | htext
  · exact ⟨_, if_pos hblank, b, key, after, b', v, more, by simp, hmore⟩
  · simp only [quoted, List.cons_append, List.append_assoc] at htext
    cases htext
    exact ⟨_, rfl, key, after, b', v, more, by simp [QuoteState.pending], hmore⟩

/-- A character of a key is taken. -/
theorem exists_skipStep_inKey {q : QuoteState} (hfits : q.Fits)
    (h : Demands (.inKey q) stack (c :: cs) rest) :
    ∃ out, skipStep (.inKey q) stack c = .ok out ∧ out.Left c cs rest := by
  obtain ⟨ps, after, b, v, more, htext, hmore⟩ := h
  simp only [List.append_assoc, List.cons_append] at htext
  rw [skipStep_inKey]
  rcases QuoteState.exists_step hfits htext with ⟨hq, rfl⟩ | ⟨next, ps', hq, hnext⟩
  · rw [hq]
    exact ⟨_, rfl, after, b, v, more, by simp, hmore⟩
  · rw [hq]
    exact ⟨_, rfl, ps', after, b, v, more, by simpa using hnext, hmore⟩

/-- A colon is taken, or a blank before it. -/
theorem exists_skipStep_colon (h : Demands .colon stack (c :: cs) rest) :
    ∃ out, skipStep .colon stack c = .ok out ∧ out.Left c cs rest := by
  obtain ⟨after, b, v, more, htext, hmore⟩ := h
  simp only [List.append_assoc, List.cons_append] at htext
  unfold skipStep
  rcases Blanks.cons_eq_append htext with ⟨hblank, b', rfl⟩ | htext
  · exact ⟨_, if_pos hblank, b', b, v, more, by simp, hmore⟩
  · cases htext
    exact ⟨_, rfl, b, v, more, by simp, hmore⟩

/-- A character of a string is taken. -/
theorem exists_skipStep_inString {q : QuoteState} (hfits : q.Fits)
    (h : Demands (.inString q) stack (c :: cs) rest) :
    ∃ out, skipStep (.inString q) stack c = .ok out ∧ out.Left c cs rest := by
  obtain ⟨ps, more, htext, hmore⟩ := h
  rw [skipStep_inString]
  rcases QuoteState.exists_step hfits htext with ⟨hq, rfl⟩ | ⟨next, ps', hq, hnext⟩
  · rw [hq]
    exact ⟨_, rfl, left_valueEnded hmore⟩
  · rw [hq]
    exact ⟨_, rfl, ps', more, hnext, hmore⟩

/-- A character of a number is taken, and so is one behind it that does not go on with it. -/
theorem exists_skipStep_inNumber {s : NumberState} (hrest : Stops rest)
    (h : Demands (.inNumber s) stack (c :: cs) rest) :
    ∃ out, skipStep (.inNumber s) stack c = .ok out ∧ out.Left c cs rest := by
  obtain ⟨token, more, htext, htoken, hmore⟩ := h
  rw [skipStep_inNumber]
  cases token with
  | nil =>
    cases htext
    rw [NumberState.step_of_stops (NumberState.rest_nil_iff.mp htoken) (hmore.stops hrest)]
    exact exists_skipStep_after hmore
  | cons d token =>
    cases htext
    obtain ⟨next, hs, hnext⟩ := NumberState.rest_cons_iff.mp htoken
    rw [hs]
    exact ⟨_, rfl, token, more, rfl, hnext, hmore⟩

/-- A character of a word is taken. -/
theorem exists_skipStep_inWord {word : List Char} (hfits : word ≠ [])
    (h : Demands (.inWord word) stack (c :: cs) rest) :
    ∃ out, skipStep (.inWord word) stack c = .ok out ∧ out.Left c cs rest := by
  obtain ⟨more, htext, hmore⟩ := h
  cases word with
  | nil => exact absurd rfl hfits
  | cons w ws =>
    cases htext
    unfold skipStep
    cases ws with
    | nil => exact ⟨_, by simp, left_valueEnded hmore⟩
    | cons w' ws => exact ⟨.goOn (.inWord (w' :: ws)) stack, by simp, more, rfl, hmore⟩

/-- **What is complete is taken character by character.** -/
theorem exists_skipStep (hfits : Fits state stack) (hrest : Stops rest)
    (h : Demands state stack (c :: cs) rest) :
    ∃ out, skipStep state stack c = .ok out ∧ out.Left c cs rest := by
  cases state with
  | value => exact exists_skipStep_value h
  | firstElement =>
    obtain ⟨outer, rfl⟩ := hfits
    exact exists_skipStep_firstElement h
  | firstKey =>
    obtain ⟨outer, rfl⟩ := hfits
    exact exists_skipStep_firstKey h
  | key => exact exists_skipStep_key h
  | inKey q => exact exists_skipStep_inKey hfits.1 h
  | colon => exact exists_skipStep_colon h
  | inString q => exact exists_skipStep_inString hfits h
  | inNumber s => exact exists_skipStep_inNumber hrest h
  | inWord word => exact exists_skipStep_inWord hfits h
  | after => exact exists_skipStep_after h

/-- Brackets that are still open are closed by something. -/
theorem Closes.eq_nil (h : Closes stack [] rest) : stack = [] ∧ rest = [] := by
  cases stack with
  | nil => exact ⟨rfl, (show [] = rest from h).symm⟩
  | cons bracket stack =>
    cases bracket with
    | list =>
      obtain ⟨after, es, more, htext, -⟩ := h
      simp at htext
    | object =>
      obtain ⟨after, ms, more, htext, -⟩ := h
      simp at htext

/-- A value has a first character. -/
theorem Value.chars_ne_nil (v : Value) : v.chars ≠ [] := by
  cases v with
  | number token h =>
    cases h with
    | positive hu => cases hu <;> exact List.cons_ne_nil _ _
    | negative hu => exact List.cons_ne_nil _ _
  | boolean value => cases value <;> exact List.cons_ne_nil _ _
  | _ => simp [Value.chars, quoted]

/-- The text may end where nothing is missing. -/
theorem skipEnd_of_demands (hfits : Fits state stack) (h : Demands state stack [] rest) :
    rest = [] ∧ skipEnd state stack = .ok () := by
  cases state with
  | inNumber s =>
    obtain ⟨token, more, htext, htoken, hmore⟩ := h
    obtain ⟨rfl, rfl⟩ := List.append_eq_nil_iff.mp htext.symm
    obtain ⟨rfl, rfl⟩ := hmore.eq_nil
    exact ⟨rfl, by simp [skipEnd, NumberState.rest_nil_iff.mp htoken]⟩
  | value =>
    obtain ⟨b, v, more, htext, -⟩ := h
    exact absurd htext (by simp [v.chars_ne_nil])
  | firstElement =>
    obtain ⟨inner, es, more, htext, -⟩ := h
    simp at htext
  | firstKey =>
    obtain ⟨inner, ms, more, htext, -⟩ := h
    simp at htext
  | key =>
    obtain ⟨b, key, after, b', v, more, htext, -⟩ := h
    simp at htext
  | inKey q =>
    obtain ⟨ps, after, b, v, more, htext, -⟩ := h
    simp only [List.append_assoc, List.cons_append, List.append_nil] at htext
    exact absurd htext (QuoteState.pending_ne hfits.1)
  | colon =>
    obtain ⟨after, b, v, more, htext, -⟩ := h
    simp at htext
  | inString q =>
    obtain ⟨ps, more, htext, -⟩ := h
    rw [List.append_nil] at htext
    exact absurd htext (QuoteState.pending_ne hfits)
  | inWord word =>
    obtain ⟨more, htext, -⟩ := h
    exact absurd (List.append_eq_nil_iff.mp htext.symm).1 hfits
  | after => exact absurd h.eq_nil.1 hfits

/-- **What is complete is passed over.** -/
theorem skipFrom_of_demands (hfits : Fits state stack) (hrest : Stops rest)
    (h : Demands state stack cs rest) : skipFrom state stack cs = .ok rest := by
  induction cs generalizing state stack with
  | nil =>
    obtain ⟨rfl, hend⟩ := skipEnd_of_demands hfits h
    exact Results.bind_eq_ok_iff.mpr ⟨(), hend, rfl⟩
  | cons c cs ih =>
    obtain ⟨out, hstep, hleft⟩ := exists_skipStep hfits hrest h
    unfold skipFrom
    rw [hstep]
    cases out with
    | doneWith => exact congrArg Except.ok hleft
    | doneBefore => exact congrArg Except.ok hleft
    | goOn next stack' => exact ih (fits_of_skipStep hfits hstep) hleft

/-- **Only values are passed over.** -/
theorem exists_of_skipValue (h : skipValue cs = .ok rest) :
    ∃ (b : Blanks) (v : Value), cs = b.chars ++ (v.chars ++ rest) := by
  obtain ⟨b, v, more, hcs, hmore⟩ := demands_of_skipFrom (show Fits .value [] from trivial) h
  cases hmore
  exact ⟨b, v, by rw [hcs, List.append_assoc]⟩

/-- **Every value is passed over**, unless it is a number that goes on. -/
theorem skipValue_append (b : Blanks) (v : Value) (hrest : Stops rest) :
    skipValue (b.chars ++ (v.chars ++ rest)) = .ok rest := by
  rw [← List.append_assoc]
  exact skipFrom_of_demands (show Fits .value [] from trivial) hrest ⟨b, v, rest, rfl, rfl⟩

end Lookout.Json
