import Lookout.Capture.Camera
/-!
# What is asked of a source

A source is connected, asked for frames and stopped, in any order, and any of these calls may fail.
Each call is made in a world of its own: between two calls anything may happen, time may pass and
servers may change their answers.  `turns` is the record of all calls with what came of them, and
`sourceAfter` the source that they leave.

* **What one call keeps, all calls keep** (`turns_keep`): the induction over a record that grows at
  its end, made once for everything that is said about sources.
* `Latest` is the connection that was made last, `Shown` the frame that was delivered last in it,
  and `Consecutive` are two frames of one connection between which there was no other.
* A camera is a source of one of two kinds, and its record is that of the kind (`turns_inl`,
  `turns_inr`).
-/

namespace Lookout.Capture

/-- Something that is asked of a source. -/
inductive Op where
  /-- Begin a stream. -/
  | connect
  /-- Wait for the next frame. -/
  | next
  /-- End the stream. -/
  | stop
  deriving DecidableEq, Repr

/-- What comes of it. -/
inductive Event (τ : Type) where
  /-- A stream has begun. -/
  | connected
  /-- No stream could be begun. -/
  | refused (cause : AcquisitionError)
  /-- There was a frame. -/
  | delivered (frame : Frame τ)
  /-- There was no frame. -/
  | failed (cause : AcquisitionError)
  /-- The program stopped. -/
  | broken
  /-- The stream has ended. -/
  | stopped

namespace Event

variable {τ : Type}

/-- The frame that was delivered. -/
def frame? : Event τ → Option (Frame τ)
  | .delivered frame => some frame
  | _ => none

/-- Neither did a stream begin nor was there a frame. -/
def Plain (e : Event τ) : Prop := e.frame? = none ∧ e ≠ .connected

/-- What came of waiting for a frame. -/
def ofNext : Delivery τ → Event τ
  | .ok (.ok frame) => .delivered frame
  | .ok (.error cause) => .failed cause
  | .tooLarge => .broken

/-- What came of beginning a stream. -/
def ofConnect : Except AcquisitionError Unit → Event τ
  | .ok () => .connected
  | .error cause => .refused cause

@[simp] theorem ofNext_ne_connected (delivery : Delivery τ) : ofNext delivery ≠ .connected := by
  rcases delivery with _ | _ | _
  · exact nofun
  · exact nofun
  · exact nofun

instance (e : Event τ) : Decidable (e = .connected) :=
  match e with
  | .connected => isTrue rfl
  | .refused _ | .delivered _ | .failed _ | .broken | .stopped => isFalse nofun

theorem plain_refused (cause : AcquisitionError) : (refused cause : Event τ).Plain :=
  ⟨rfl, by simp⟩

theorem plain_failed (cause : AcquisitionError) : (failed cause : Event τ).Plain := ⟨rfl, by simp⟩

theorem plain_broken : (broken : Event τ).Plain := ⟨rfl, by simp⟩

theorem plain_stopped : (stopped : Event τ).Plain := ⟨rfl, by simp⟩

theorem not_plain_delivered (frame : Frame τ) : ¬(delivered frame : Event τ).Plain := by
  intro hplain
  cases hplain.1

/-- Only an event with a frame delivers it. -/
theorem frame?_eq_some_iff {e : Event τ} {frame : Frame τ} :
    e.frame? = some frame ↔ e = .delivered frame := by
  cases e <;> simp [frame?]

end Event

/-- A call to a source, with what came of it. -/
structure Turn (ω τ : Type) where
  /-- The world it was made in. -/
  began : ω
  /-- What came of it. -/
  event : Event τ
  /-- The world it left. -/
  ended : ω

section calls

variable {σ ω τ : Type} [FrameSource σ ω τ]

/-- Make a call to a source. -/
def Op.perform (s : σ) (w : ω) : Op → Event τ × σ × ω
  | .connect =>
    let (outcome, s, w) := FrameSource.connect s w
    (.ofConnect outcome, s, w)
  | .next =>
    let (delivery, s, w) := FrameSource.next s w
    (.ofNext delivery, s, w)
  | .stop =>
    let (s, w) := FrameSource.stop s w
    (.stopped, s, w)

/-- Only a stream that was asked for begins. -/
theorem Op.eq_connect {s : σ} {w : ω} {op : Op} (h : (op.perform s w).1 = .connected) :
    op = .connect := by
  cases op with
  | connect => rfl
  | next => exact absurd h (Event.ofNext_ne_connected _)
  | stop => exact absurd h nofun

/-- The source after some calls, each with the world that it is made in. -/
def sourceAfter (s : σ) : List (Op × ω) → σ
  | [] => s
  | (op, w) :: calls => sourceAfter (op.perform s w).2.1 calls

/-- A call, with what comes of it. -/
def turn (s : σ) (op : Op) (w : ω) : Turn ω τ :=
  ⟨w, (op.perform s w).1, (op.perform s w).2.2⟩

theorem event_turn (s : σ) (op : Op) (w : ω) : (turn s op w).event = (op.perform s w).1 := rfl

/-- The record of some calls. -/
def turns (s : σ) : List (Op × ω) → List (Turn ω τ)
  | [] => []
  | (op, w) :: calls => turn s op w :: turns (op.perform s w).2.1 calls

/-- The source after two runs of calls. -/
theorem sourceAfter_append (s : σ) (calls more : List (Op × ω)) :
    sourceAfter s (calls ++ more) = sourceAfter (sourceAfter s calls) more := by
  induction calls generalizing s with
  | nil => rfl
  | cons call calls ih => exact ih _

/-- The record of two runs of calls. -/
theorem turns_append (s : σ) (calls more : List (Op × ω)) :
    turns s (calls ++ more) = turns s calls ++ turns (sourceAfter s calls) more := by
  induction calls generalizing s with
  | nil => rfl
  | cons call calls ih => exact congrArg (turn s call.1 call.2 :: ·) (ih _)

@[simp] theorem length_turns (s : σ) (calls : List (Op × ω)) :
    (turns s calls).length = calls.length := by
  induction calls generalizing s with
  | nil => rfl
  | cons call calls ih => exact congrArg (· + 1) (ih _)

/-- What was recorded before, at and after a call is the record of the calls before, at and after
it. -/
theorem turns_split {s : σ} {calls : List (Op × ω)} {before since : List (Turn ω τ)}
    {c : Turn ω τ} (h : turns s calls = before ++ c :: since) :
    ∃ earlier op later, calls = earlier ++ (op, c.began) :: later ∧
      earlier.length = before.length ∧ before = turns s earlier ∧
      c.event = (op.perform (sourceAfter s earlier) c.began).1 ∧
      since = turns (op.perform (sourceAfter s earlier) c.began).2.1 later := by
  have hlength := congrArg List.length h
  rw [length_turns, List.length_append, List.length_cons] at hlength
  have htake : (calls.take before.length).length = before.length := by
    rw [List.length_take]
    omega
  obtain ⟨⟨op, w⟩, later, hdrop⟩ : ∃ call later, calls.drop before.length = call :: later :=
    ⟨_, _, List.drop_eq_getElem_cons (by omega)⟩
  have hcalls := List.take_append_drop before.length calls
  rw [hdrop] at hcalls
  rw [← hcalls, turns_append] at h
  obtain ⟨hbefore, hrest⟩ := List.append_inj h (by rw [length_turns, htake])
  obtain ⟨rfl, rfl⟩ := List.cons.inj hrest
  exact ⟨_, op, later, hcalls.symm, htake, hbefore.symm, rfl, rfl⟩

/-- What one call keeps, all calls keep, whatever was on record before. -/
theorem turns_keep_from {P : List (Turn ω τ) → σ → Prop}
    (step : ∀ past s op w, P past s → P (past ++ [turn s op w]) (op.perform s w).2.1)
    (calls : List (Op × ω)) (past : List (Turn ω τ)) (s : σ) (h : P past s) :
    P (past ++ turns s calls) (sourceAfter s calls) := by
  induction calls generalizing past s with
  | nil =>
    unfold turns sourceAfter
    rw [List.append_nil]
    exact h
  | cons call calls ih =>
    have hrest := ih _ _ (step past s call.1 call.2 h)
    rw [List.append_assoc] at hrest
    exact hrest

/-- **What one call keeps, all calls keep.** -/
theorem turns_keep {P : List (Turn ω τ) → σ → Prop} {s : σ} (new : P [] s)
    (step : ∀ past s op w, P past s → P (past ++ [turn s op w]) (op.perform s w).2.1)
    (calls : List (Op × ω)) : P (turns s calls) (sourceAfter s calls) :=
  turns_keep_from step calls [] s new

end calls

/-! ### Reading the record -/

section record

variable {ω τ : Type} {past before since : List (Turn ω τ)} {c t : Turn ω τ}
  {f g : Frame τ}

/-- The frames that were delivered, in order. -/
def framesOf (past : List (Turn ω τ)) : List (Frame τ) := past.filterMap (·.event.frame?)

@[simp] theorem framesOf_append (past more : List (Turn ω τ)) :
    framesOf (past ++ more) = framesOf past ++ framesOf more :=
  List.filterMap_append

/-- What the frames are after one more call. -/
theorem framesOf_snoc (past : List (Turn ω τ)) (t : Turn ω τ) :
    framesOf (past ++ [t]) = framesOf past ++ t.event.frame?.toList := by
  rw [framesOf_append]
  unfold framesOf
  cases h : t.event.frame? with
  | none => simp [h]
  | some frame => simp [h]

/-- Frames come from what happened before and after a connection, and not from the connection. -/
theorem framesOf_of_split (hsplit : past = before ++ c :: since) (hc : c.event = .connected) :
    framesOf past = framesOf before ++ framesOf since := by
  have hnone : framesOf (c :: since) = framesOf since := by
    unfold framesOf
    exact List.filterMap_cons_none (by rw [hc]; rfl)
  rw [hsplit, framesOf_append, hnone]

/-- The connection that was made last, with what was recorded before and since. -/
structure Latest (past before : List (Turn ω τ)) (c : Turn ω τ)
    (since : List (Turn ω τ)) : Prop where
  /-- It is one of the calls. -/
  split : past = before ++ c :: since
  /-- It was made. -/
  connected : c.event = .connected
  /-- No other has been made since. -/
  last : ∀ t ∈ since, t.event ≠ .connected

/-- The frame was delivered last, in the connection that was made last. -/
def Shown (past : List (Turn ω τ)) (f : Frame τ) : Prop :=
  ∃ before t since, past = before ++ t :: since ∧ t.event = .delivered f ∧
    ∀ t ∈ since, t.event.Plain

/-- One frame was delivered after the other in one connection, and none in between. -/
def Consecutive (past : List (Turn ω τ)) (f g : Frame τ) : Prop :=
  ∃ before t since, past = before ++ t :: since ∧ t.event = .delivered g ∧ Shown before f

/-- What a record with one more call was before it. -/
theorem split_snoc (h : past ++ [t] = before ++ c :: since) :
    (since = [] ∧ past = before ∧ t = c) ∨
      ∃ earlier, since = earlier ++ [t] ∧ past = before ++ c :: earlier := by
  rcases List.eq_nil_or_concat since with rfl | ⟨earlier, m, rfl⟩
  · obtain ⟨hpast, ht⟩ := List.append_inj' h rfl
    exact Or.inl ⟨rfl, hpast, (List.cons.inj ht).1⟩
  · rw [List.concat_eq_append, ← List.cons_append, ← List.append_assoc] at h
    obtain ⟨hpast, ht⟩ := List.append_inj' h rfl
    obtain rfl := (List.cons.inj ht).1
    exact Or.inr ⟨earlier, List.concat_eq_append, hpast⟩

/-- Nothing was delivered before the first call. -/
theorem not_shown_nil : ¬Shown ([] : List (Turn ω τ)) f := by
  rintro ⟨before, t, since, hsplit, -, -⟩
  exact List.append_ne_nil_of_right_ne_nil before (List.cons_ne_nil t since) hsplit.symm

/-- The frame that was delivered last, after one more call. -/
theorem Shown.of_snoc (h : Shown (past ++ [t]) f) :
    t.event = .delivered f ∨ (t.event.Plain ∧ Shown past f) := by
  obtain ⟨before, d, since, hsplit, hd, hplain⟩ := h
  rcases split_snoc hsplit with ⟨-, -, rfl⟩ | ⟨earlier, rfl, hpast⟩
  · exact Or.inl hd
  · refine Or.inr ⟨hplain t (by simp), before, d, earlier, hpast, hd, ?_⟩
    intro s hs
    exact hplain s (List.mem_append_left _ hs)

theorem not_consecutive_nil : ¬Consecutive ([] : List (Turn ω τ)) f g := by
  rintro ⟨before, t, since, hsplit, -, -⟩
  exact List.append_ne_nil_of_right_ne_nil before (List.cons_ne_nil t since) hsplit.symm

/-- Two consecutive frames, after one more call. -/
theorem Consecutive.of_snoc (h : Consecutive (past ++ [t]) f g) :
    Consecutive past f g ∨ (Shown past f ∧ t.event = .delivered g) := by
  obtain ⟨before, d, since, hsplit, hd, hshown⟩ := h
  rcases split_snoc hsplit with ⟨-, rfl, rfl⟩ | ⟨earlier, rfl, hpast⟩
  · exact Or.inr ⟨hshown, hd⟩
  · exact Or.inl ⟨before, d, earlier, hpast, hd, hshown⟩

end record

/-! ### Cameras -/

section sum

variable {α β ω τ : Type} [FrameSource α ω τ] [FrameSource β ω τ]

/-- A source of the first kind does what it does on its own. -/
theorem Op.perform_inl (s : α) (w : ω) (op : Op) :
    op.perform (Sum.inl s : α ⊕ β) w =
      ((op.perform s w).1, .inl (op.perform s w).2.1, (op.perform s w).2.2) := by
  cases op <;> rfl

/-- A source of the second kind does what it does on its own. -/
theorem Op.perform_inr (s : β) (w : ω) (op : Op) :
    op.perform (Sum.inr s : α ⊕ β) w =
      ((op.perform s w).1, .inr (op.perform s w).2.1, (op.perform s w).2.2) := by
  cases op <;> rfl

/-- The record of a source of the first kind. -/
theorem turns_inl (s : α) (calls : List (Op × ω)) :
    turns (Sum.inl s : α ⊕ β) calls = turns s calls := by
  induction calls generalizing s with
  | nil => rfl
  | cons call calls ih =>
    unfold turns turn
    rw [Op.perform_inl, ih]

/-- The record of a source of the second kind. -/
theorem turns_inr (s : β) (calls : List (Op × ω)) :
    turns (Sum.inr s : α ⊕ β) calls = turns s calls := by
  induction calls generalizing s with
  | nil => rfl
  | cons call calls ih =>
    unfold turns turn
    rw [Op.perform_inr, ih]

end sum

/-- A camera with some settings that was never used. -/
inductive Unused {τ : Type} (settings : SourceSettings) : Camera τ → Prop where
  /-- It makes its frames up, with some noise. -/
  | synthetic (noise : Nat → UInt8) :
    Unused settings (.inl { SyntheticSource.ofSettings settings with noise })
  /-- It is on the network, and its pictures are read in some way. -/
  | http (decode : Picture.Reader) :
    Unused settings (.inr (.ofSettings settings decode))

end Lookout.Capture
