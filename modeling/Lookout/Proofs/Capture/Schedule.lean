import Mathlib.Order.Bounds.Basic
import Lookout.Capture.Pacer
import Lookout.Proofs.Time.Exact
/-!
# The schedule of a pacer

A pacer and the manual clock that it waits on are used in any order: waits, resets, and time that
passes by whole nanoseconds.  Times are exact here, and the clock may show anything at the
beginning.

* **A wait ends at the moment it is called or an interval after the wait before it, whichever is
  later** (`waits_until_due`): it sleeps once for exactly what is missing, or not at all, and the
  first wait since the pacer was made or reset ends at once.
* What all waits of a run come to is read off the moments they were called at (`slots`): **a wait
  ends at the latest of these moments, each put off by an interval for every wait since**
  (`isGreatest_slots`).  So a late wait moves all later ones, none of which comes early to make up
  for it, and nothing but intervals is ever added to a moment that the clock has shown.
-/

namespace Lookout.Pacing

/-- What is done with a pacer and its clock. -/
inductive Action where
  /-- Wait until the next frame is due. -/
  | wait
  /-- Forget when it is due. -/
  | reset
  /-- Let time pass. -/
  | advance (d : Span)
  deriving DecidableEq, Repr

/-- A wait that is over. -/
structure Wait where
  /-- What the clock showed when it was called. -/
  called : ℚ
  /-- The time it gave back. -/
  returned : ℚ
  deriving DecidableEq, Repr

/-- A pacer in use. -/
structure Course where
  /-- The pacer. -/
  pacer : Pacer ℚ
  /-- The clock that it waits on. -/
  clock : ManualClock ℚ
  /-- The waits since the pacer was made or reset, the last one first. -/
  waits : List Wait := []

/-- Do something with a pacer and its clock. -/
def Course.perform (s : Course) : Action → Course
  | .wait =>
    let (returned, pacer, clock) := s.pacer.wait s.clock
    ⟨pacer, clock, ⟨s.clock.now, returned⟩ :: s.waits⟩
  | .reset => { s with pacer := s.pacer.reset, waits := [] }
  | .advance d => { s with clock := s.clock.advance d }

/-- A new pacer for a rate, and its clock, after some actions. -/
def after (rate : ℕ) (clock : ManualClock ℚ) (actions : List Action) : Course :=
  actions.foldl Course.perform { pacer := .ofRate rate, clock }

/-! ### One wait -/

section wait

variable {p : Pacer ℚ} {c : ManualClock ℚ} {due : ℚ}

/-- Nothing is waited for if nothing is due. -/
theorem wait_of_none (hdue : p.nextDue = none) : p.wait c = (c.now, p.claim c.now, c) := by
  unfold Pacer.wait
  rw [hdue]
  rfl

/-- Nothing is waited for if it is due already. -/
theorem wait_of_late (hdue : p.nextDue = some due) (hlate : due ≤ c.now) :
    p.wait c = (c.now, p.claim c.now, c) := by
  have hslept : Pacer.sleepUntil due c = c := if_neg (not_lt.mpr hlate)
  unfold Pacer.wait
  rw [hdue]
  simp only [hslept]
  rfl

/-- What is due in whole nanoseconds is slept for in one go. -/
theorem wait_of_early (hdue : p.nextDue = some due) (hearly : c.now < due)
    (hwhole : Whole (due - c.now)) :
    p.wait c = (due, p.claim due, c.sleep (Timeline.toSpan (due - c.now))) := by
  have hslept : Pacer.sleepUntil due c = c.sleep (Timeline.toSpan (due - c.now)) := if_pos hearly
  have hnow : (c.sleep (Timeline.toSpan (due - c.now))).now = due := by
    show c.now + Timeline.ofSpan (Timeline.toSpan (due - c.now)) = due
    rw [hwhole.ofSpan_toSpan (by linarith)]
    linarith
  unfold Pacer.wait
  rw [hdue]
  simp only [hslept]
  show (_, p.claim _, _) = _
  rw [show (Clock.now (c.sleep (Timeline.toSpan (due - c.now)))).1 = due from hnow]
  rfl

end wait

/-! ### Waits one after the other -/

/-- Waits of one run, the last one first: each ended when it was called or an interval after the one
before it, whichever was later. -/
def Scheduled (interval : ℚ) : List Wait → Prop
  | [] => True
  | [w] => w.returned = w.called
  | w :: earlier :: rest =>
    w.returned = max w.called (earlier.returned + interval) ∧ Scheduled interval (earlier :: rest)

/-- The moments that some calls put off to, the last call first: each by an interval for every call
since. -/
def slots (interval : ℚ) (calls : List ℚ) : Set ℚ :=
  {t | ∃ (n : ℕ) (called : ℚ), calls[n]? = some called ∧ t = called + n * interval}

section scheduled

variable {interval : ℚ} {w : Wait} {earlier : List Wait}

theorem Scheduled.tail (h : Scheduled interval (w :: earlier)) : Scheduled interval earlier := by
  cases earlier with
  | nil => trivial
  | cons => exact h.2

/-- One more call puts all calls before it off by one more interval. -/
theorem mem_slots_cons {called t : ℚ} {calls : List ℚ} :
    t ∈ slots interval (called :: calls) ↔
      t = called ∨ ∃ u ∈ slots interval calls, t = u + interval := by
  constructor
  · rintro ⟨n, moment, hn, rfl⟩
    cases n with
    | zero =>
      have heq : called = moment := by simpa using hn
      exact Or.inl (by rw [heq]; push_cast; linarith)
    | succ n =>
      have hn : calls[n]? = some moment := by simpa using hn
      exact Or.inr ⟨_, ⟨n, moment, hn, rfl⟩, by push_cast; linarith⟩
  · rintro (rfl | ⟨_, ⟨n, moment, hn, rfl⟩, rfl⟩)
    · exact ⟨0, t, by simp, by push_cast; linarith⟩
    · exact ⟨n + 1, moment, by simpa using hn, by push_cast; linarith⟩

/-- **A wait ends at the latest of the moments at which it and the waits before it were called, each
put off by an interval for every wait since.** -/
theorem isGreatest_slots (h : Scheduled interval (w :: earlier)) :
    IsGreatest (slots interval ((w :: earlier).map Wait.called)) w.returned := by
  induction earlier generalizing w with
  | nil =>
    have hreturned : w.returned = w.called := h
    rw [hreturned]
    constructor
    · exact mem_slots_cons.mpr (Or.inl rfl)
    · intro t ht
      rcases mem_slots_cons.mp ht with rfl | ⟨u, ⟨n, moment, hn, -⟩, -⟩
      · exact le_refl _
      · simp at hn
  | cons v earlier ih =>
    obtain ⟨hmem, hupper⟩ := ih h.tail
    obtain ⟨hreturned, -⟩ := h
    rw [hreturned]
    constructor
    · apply mem_slots_cons.mpr
      rcases max_choice w.called (v.returned + interval) with hcalled | hput
      · exact Or.inl hcalled
      · exact Or.inr ⟨v.returned, hmem, hput⟩
    · intro t ht
      rcases mem_slots_cons.mp ht with rfl | ⟨u, hu, rfl⟩
      · exact le_max_left _ _
      · have hle : u ≤ v.returned := hupper hu
        exact le_trans (by linarith) (le_max_right _ _)

/-- So many waits after another one are so many intervals after it. -/
theorem le_of_scheduled (h : Scheduled interval (w :: earlier)) {n : ℕ} {v : Wait}
    (hv : earlier[n]? = some v) : v.returned + (n + 1) * interval ≤ w.returned := by
  induction earlier generalizing w n with
  | nil => simp at hv
  | cons u earlier ih =>
    have hstep : u.returned + interval ≤ w.returned := by
      rw [h.1]
      exact le_max_right _ _
    cases n with
    | zero =>
      have heq : u = v := by simpa using hv
      rw [← heq]
      push_cast
      linarith
    | succ n =>
      have hle := ih h.tail (by simpa using hv)
      push_cast at hle ⊢
      linarith

end scheduled

/-! ### Runs -/

/-- What all actions keep of a pacer for a rate and of its clock. -/
structure Course.Kept (rate : ℕ) (s : Course) : Prop where
  /-- The interval is that of the rate. -/
  interval_eq : s.pacer.interval = frameInterval rate
  /-- The next frame is due an interval after the last wait. -/
  nextDue_eq : s.pacer.nextDue =
    s.waits.head?.map fun w => w.returned + Timeline.ofSpan (frameInterval rate)
  /-- Whole nanoseconds have passed since the last wait. -/
  whole : ∀ w, s.waits.head? = some w → Whole (s.clock.now - w.returned)
  /-- The waits have kept to the schedule. -/
  scheduled : Scheduled (Timeline.ofSpan (frameInterval rate)) s.waits

/-- What a wait comes to. -/
structure Waited (interval : ℚ) (s : Course) (returned : ℚ) (clock : ManualClock ℚ) : Prop where
  /-- It leaves the clock at the time it gives back. -/
  now_eq : clock.now = returned
  /-- The first one does not wait. -/
  first : s.waits = [] → returned = s.clock.now ∧ clock.sleeps = s.clock.sleeps
  /-- Any other one ends when it is called or an interval after the last one. -/
  other : ∀ last earlier, s.waits = last :: earlier →
    returned = max s.clock.now (last.returned + interval) ∧
    (s.clock.now < last.returned + interval → ∃ missing : Span,
      Timeline.ofSpan missing = last.returned + interval - s.clock.now ∧
        clock.sleeps = s.clock.sleeps.push missing) ∧
    (last.returned + interval ≤ s.clock.now → clock.sleeps = s.clock.sleeps)

section runs

variable {rate : ℕ} {s : Course}

/-- A wait comes to this, and claims the time it gives back. -/
theorem Course.Kept.exists_wait (h : s.Kept rate) :
    ∃ returned clock, s.pacer.wait s.clock = (returned, s.pacer.claim returned, clock) ∧
      Waited (Timeline.ofSpan (frameInterval rate)) s returned clock := by
  have hdue := h.nextDue_eq
  rcases hwaits : s.waits with _ | ⟨last, earlier⟩
  · rw [hwaits] at hdue
    refine ⟨_, _, wait_of_none hdue, rfl, fun _ => ⟨rfl, rfl⟩, ?_⟩
    intro last earlier hsome
    rw [hwaits] at hsome
    cases hsome
  rw [hwaits] at hdue
  have hwhole : Whole (last.returned + Timeline.ofSpan (frameInterval rate) - s.clock.now) := by
    have hpassed : Whole (s.clock.now - last.returned) := h.whole last (by rw [hwaits]; rfl)
    rw [show last.returned + Timeline.ofSpan (frameInterval rate) - s.clock.now =
      Timeline.ofSpan (frameInterval rate) - (s.clock.now - last.returned) by linarith]
    exact (whole_ofSpan _).sub hpassed
  rcases le_or_gt (last.returned + Timeline.ofSpan (frameInterval rate)) s.clock.now with
    hlate | hearly
  · refine ⟨_, _, wait_of_late hdue hlate, rfl, fun hnone => ?_, ?_⟩
    · rw [hwaits] at hnone
      cases hnone
    · intro last' earlier' hsome
      rw [hwaits] at hsome
      cases hsome
      exact ⟨(max_eq_left hlate).symm, fun hearly => absurd hlate (not_le.mpr hearly), fun _ => rfl⟩
  · have hspan := hwhole.ofSpan_toSpan (by linarith)
    refine ⟨_, _, wait_of_early hdue hearly hwhole, ?_, fun hnone => ?_, ?_⟩
    · show s.clock.now + Timeline.ofSpan (Timeline.toSpan _) = _
      rw [hspan]
      linarith
    · rw [hwaits] at hnone
      cases hnone
    · intro last' earlier' hsome
      rw [hwaits] at hsome
      cases hsome
      exact ⟨(max_eq_right hearly.le).symm, fun _ => ⟨_, hspan, rfl⟩,
        fun hlate => absurd hlate (not_le.mpr hearly)⟩

/-- A wait that comes to this keeps to the schedule. -/
theorem Waited.scheduled {interval returned : ℚ} {clock : ManualClock ℚ}
    (h : Waited interval s returned clock) (hscheduled : Scheduled interval s.waits) :
    Scheduled interval (⟨s.clock.now, returned⟩ :: s.waits) := by
  rcases hwaits : s.waits with _ | ⟨last, earlier⟩
  · exact (h.first hwaits).1
  · rw [hwaits] at hscheduled
    exact ⟨(h.other last earlier hwaits).1, hscheduled⟩

/-- What one action keeps. -/
theorem Course.Kept.perform (h : s.Kept rate) (action : Action) : (s.perform action).Kept rate := by
  cases action with
  | wait =>
    obtain ⟨returned, clock, hwait, hwaited⟩ := h.exists_wait
    unfold Course.perform
    rw [hwait]
    constructor
    · exact h.interval_eq
    · show some (returned + Timeline.ofSpan s.pacer.interval) = _
      rw [h.interval_eq]
      rfl
    · rintro _ ⟨⟩
      rw [hwaited.now_eq, sub_self]
      exact whole_natCast 0
    · exact hwaited.scheduled h.scheduled
  | reset => exact ⟨h.interval_eq, rfl, nofun, trivial⟩
  | advance d =>
    refine ⟨h.interval_eq, h.nextDue_eq, ?_, h.scheduled⟩
    intro w hw
    show Whole (s.clock.now + Timeline.ofSpan d - w.returned)
    rw [add_sub_right_comm]
    exact (h.whole w hw).add (whole_ofSpan d)

/-- What all actions keep. -/
theorem kept_after (rate : ℕ) (clock : ManualClock ℚ) (actions : List Action) :
    (after rate clock actions).Kept rate := by
  have hkeep : ∀ s : Course, s.Kept rate → (actions.foldl Course.perform s).Kept rate := by
    induction actions with
    | nil => exact fun _ h => h
    | cons action actions ih => exact fun s h => ih _ (h.perform action)
  exact hkeep _ ⟨rfl, rfl, nofun, trivial⟩

end runs

/-- **A wait ends when it is called or an interval after the last one, whichever is later.**
Whatever has been done with a pacer for some rate and with its clock, and whatever the clock showed
at the beginning:

* a wait ends, and leaves the clock at the time that it gives back;
* the first one since the pacer was made or reset gives back what the clock shows and does not
  sleep; any other one ends when it is called or an interval after the last one ended, whichever is
  later, and sleeps once for exactly what is missing if something is, and else not at all;
* it ends at least so many intervals after each earlier wait as there were waits since;
* it ends at the latest of the moments that it and the earlier waits were called at, each put off by
  an interval for every wait since. -/
theorem waits_until_due (rate : ℕ) (clock : ManualClock ℚ) (actions : List Action) :
    let s := after rate clock actions
    let interval : ℚ := Timeline.ofSpan (frameInterval rate)
    ∃ returned pacer clock', s.pacer.wait s.clock = (returned, pacer, clock') ∧
      Waited interval s returned clock' ∧
      (∀ (n : ℕ) (earlier : Wait), s.waits[n]? = some earlier →
        earlier.returned + (n + 1) * interval ≤ returned) ∧
      IsGreatest (slots interval (s.clock.now :: s.waits.map Wait.called)) returned := by
  intro s interval
  have hkept : s.Kept rate := kept_after rate clock actions
  obtain ⟨returned, clock', hwait, hwaited⟩ := hkept.exists_wait
  have hscheduled := hwaited.scheduled hkept.scheduled
  exact ⟨returned, _, clock', hwait, hwaited, fun _ _ => le_of_scheduled hscheduled,
    isGreatest_slots hscheduled⟩

/-- Ten frames a second: the second wait is put off to 100 milliseconds, and the third one, called
150 milliseconds late, ends at once. -/
theorem late_wait_at_ten :
    let s := after 10 .start [.wait, .wait, .advance (.ofMillis 250)]
    s.waits = [⟨0, 100⟩, ⟨0, 0⟩] ∧ s.clock = ⟨350, #[.ofMillis 100]⟩ ∧
      (s.pacer.wait s.clock).1 = 350 ∧ (s.pacer.wait s.clock).2.2.sleeps = #[.ofMillis 100] := by
  intro s
  have hwaits : s.waits = [⟨0, 100⟩, ⟨0, 0⟩] := by decide +kernel
  have hnow : s.clock.now = 350 := by decide +kernel
  have hsleeps : s.clock.sleeps = #[.ofMillis 100] := by decide +kernel
  obtain ⟨returned, pacer, clock, hwait, hwaited, -⟩ :=
    waits_until_due 10 .start [.wait, .wait, .advance (.ofMillis 250)]
  obtain ⟨hreturned, -, hlate⟩ := hwaited.other _ _ hwaits
  have hinterval : (Timeline.ofSpan (frameInterval 10) : ℚ) = 100 := by decide +kernel
  rw [hinterval] at hreturned hlate
  rw [show s.pacer.wait s.clock = (returned, pacer, clock) from hwait]
  refine ⟨hwaits, ?_, ?_, ?_⟩
  · rw [← hnow, ← hsleeps]
  · rw [hreturned, hnow]
    norm_num
  · rw [← hsleeps]
    apply hlate
    rw [hnow]
    norm_num

end Lookout.Pacing
