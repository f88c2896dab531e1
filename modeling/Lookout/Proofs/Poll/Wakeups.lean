import Lookout.Proofs.Poll.Interleaving
/-!
# No call is slept through

A call of the controls does two things: it changes what is shared with the worker, and then it wakes
the worker if that sleeps.  Here the two are moves of their own (`Move.change`, `Move.notify`), with
anything in between, and a scene counts the calls that stand between them.  The worker looks at the
schedule and falls asleep in one move, since it lets go of the lock only by falling asleep; and it
may wake up at any time for no reason.  To be woken is to have to look at the schedule again, so a
worker that sleeps has no waking before it; and waking a worker that does not sleep does nothing,
neither then nor later.

* **No call is slept through** (`no_call_slept_through`): if the worker sleeps while no call stands
  between its change and its waking, then it was not asked to exit, and it sleeps until the moment
  when the scheduled request is due, or without end if nothing is scheduled.
* Calls that make their change and wake the worker in one step are a case of this: every
  interleaving of whole steps (`Worker.run`) is one of moves (part of the same statement).

One lemma says what a move does to a worker that sleeps afterwards (`Attentive.step`): it has just
looked at the schedule, or the move has left it and its schedule alone, or a call stands.
-/

namespace Lookout.Worker

/-- A call that changes what the worker has to do. -/
inductive Call where
  /-- Select a channel. -/
  | select (c : ChannelId) (now : Moment)
  /-- Select nothing. -/
  | deselect
  /-- Ask the worker to exit. -/
  | requestShutdown

/-- Something that happens to a worker and its controls. -/
inductive Move where
  /-- A call makes its change, under the lock. -/
  | change (call : Call)
  /-- A call that has made its change wakes the worker. -/
  | notify
  /-- Someone asks to be told about changes of health. -/
  | subscribe
  /-- Someone panics while holding the lock. -/
  | poison
  /-- The worker wakes up: the time has come, or for no reason. -/
  | wake
  /-- The worker takes the lock and looks at the schedule. -/
  | check (now : Moment)
  /-- The worker takes the lock and hands back the outcome of a fetch. -/
  | finish (outcome : Except ClientError (Frame Float)) (now : Moment)
  /-- Fetching panics. -/
  | crash

/-- A worker and the calls of its controls. -/
structure Scene (σ : Type) where
  /-- The worker and what it shares. -/
  worker : Worker σ
  /-- How many calls have made their change and have not woken the worker yet. -/
  standing : Nat := 0

variable {σ : Type}

/-- What a call changes; it does not get to what is shared where that is unusable. -/
def change (w : Worker σ) : Call → Worker σ
  | .select c now =>
    if w.poisoned then w
    else { w with poller := (w.poller.select c).2, next := some ⟨(w.poller.select c).1, now⟩ }
  | .deselect => if w.poisoned then w else { w with poller := w.poller.deselect, next := none }
  | .requestShutdown => w.requestShutdown

/-! ### Who sleeps -/

/-- Nobody sleeps after being woken. -/
theorem notify_ne_asleep (w : Worker σ) (u : Option Moment) : w.notify.phase ≠ .asleep u := by
  unfold notify
  split
  · nofun
  · rename_i hphase
    exact hphase u

/-- Panicking puts nobody to sleep. -/
theorem crash_of_asleep {w : Worker σ} {u : Option Moment} (h : w.crash.phase = .asleep u) :
    w.crash = w := by
  unfold crash at h ⊢
  split at h
  · cases h
  · rfl

namespace Scene

/-- A worker that sleeps, with no call standing, was not asked to exit and sleeps until the scheduled
request is due. -/
def Attentive (s : Scene σ) : Prop :=
  ∀ u, s.standing = 0 → s.worker.phase = .asleep u →
    s.worker.shutdown = false ∧ s.worker.next.map Scheduled.due = u

/-- Nobody sleeps in the beginning. -/
theorem Attentive.spawn (p : Poller σ) : Attentive { worker := Worker.spawn p } := by
  intro u _ hphase
  cases hphase

end Scene

variable [Surface σ]

/-- Handing back an outcome puts nobody to sleep. -/
theorem finish_of_asleep {w : Worker σ} {outcome : Except ClientError (Frame Float)} {now : Moment}
    {u : Option Moment} (h : (w.finish outcome now).phase = .asleep u) :
    w.finish outcome now = w := by
  unfold finish at h ⊢
  split at h
  · split at h
    · cases h
    · cases h
  · rfl

/-- Subscribing leaves the worker and its schedule alone. -/
theorem subscribe_keeps (w : Worker σ) :
    (w.step .subscribe).phase = w.phase ∧ (w.step .subscribe).next = w.next ∧
      (w.step .subscribe).shutdown = w.shutdown := by
  rw [step_subscribe]
  split
  · exact ⟨rfl, rfl, rfl⟩
  · exact ⟨rfl, rfl, rfl⟩

/-- No event of an interleaving makes what is shared unusable. -/
theorem poisoned_step (w : Worker σ) (e : Event) : (w.step e).poisoned = w.poisoned := by
  cases e with
  | select c now => exact (step_of_isAside rfl w).2.2
  | deselect => exact (step_of_isAside rfl w).2.2
  | subscribe => exact (step_of_isAside rfl w).2.2
  | notify => exact (step_of_isAside rfl w).2.2
  | wake => exact (step_of_isAside rfl w).2.2
  | requestShutdown =>
    show w.requestShutdown.poisoned = w.poisoned
    unfold Worker.requestShutdown
    split
    · rfl
    · rfl
  | check now =>
    show (w.check now).poisoned = w.poisoned
    have hchecked := w.checked now
    generalize w.check now = w' at hchecked ⊢
    cases hchecked with
    | elsewhere => rfl
    | exits => rfl
    | rests => rfl
    | waits => rfl
    | begins => rfl
    | drops => rfl
  | finish outcome now =>
    show (w.finish outcome now).poisoned = w.poisoned
    unfold finish
    split
    · split
      · rfl
      · rfl
    · rfl
  | crash =>
    show w.crash.poisoned = w.poisoned
    unfold crash
    split
    · rfl
    · rfl

/-! ### Moves -/

namespace Scene

/-- What a move does.  A waking that no call is due to make is one for no reason. -/
def step (s : Scene σ) : Move → Scene σ
  | .change call => ⟨s.worker.change call, s.standing + 1⟩
  | .notify => ⟨s.worker.notify, s.standing - 1⟩
  | .subscribe => { s with worker := s.worker.step .subscribe }
  | .poison => { s with worker := s.worker.poison }
  | .wake => { s with worker := s.worker.wake }
  | .check now => { s with worker := s.worker.check now }
  | .finish outcome now => { s with worker := s.worker.finish outcome now }
  | .crash => { s with worker := s.worker.crash }

/-- What some moves do, in order. -/
def run (s : Scene σ) : List Move → Scene σ
  | [] => s
  | m :: ms => (s.step m).run ms

theorem run_append (s : Scene σ) (ms ns : List Move) : s.run (ms ++ ns) = (s.run ms).run ns := by
  induction ms generalizing s with
  | nil => rfl
  | cons m ms ih => exact ih (s.step m)

namespace Attentive

variable {s : Scene σ}

/-- A worker that falls asleep has just looked at the schedule. -/
theorem check (h : s.Attentive) (now : Moment) : (s.step (.check now)).Attentive := by
  intro u hstanding hphase
  change (s.worker.check now).phase = .asleep u at hphase
  show (s.worker.check now).shutdown = false ∧ (s.worker.check now).next.map Scheduled.due = u
  have hchecked := s.worker.checked now
  generalize s.worker.check now = w at hphase hchecked ⊢
  cases hchecked with
  | elsewhere => exact h u hstanding hphase
  | exits => cases hphase
  | rests _ hshutdown hnext =>
    cases hphase
    exact ⟨hshutdown, by rw [hnext]; rfl⟩
  | waits _ hshutdown r hnext =>
    cases hphase
    exact ⟨hshutdown, by rw [hnext]; rfl⟩
  | begins => cases hphase
  | drops _ hshutdown =>
    cases hphase
    exact ⟨hshutdown, rfl⟩

/-- Whatever happens, the worker does not sleep through it. -/
theorem step (h : s.Attentive) (m : Move) : (s.step m).Attentive := by
  intro u hstanding hphase
  cases m with
  | change call => exact absurd hstanding (Nat.succ_ne_zero _)
  | notify => exact absurd hphase (notify_ne_asleep s.worker u)
  | wake => exact absurd hphase (notify_ne_asleep s.worker u)
  | subscribe =>
    change (s.worker.step .subscribe).phase = .asleep u at hphase
    obtain ⟨hsame, hnext, hshutdown⟩ := subscribe_keeps s.worker
    rw [hsame] at hphase
    show (s.worker.step .subscribe).shutdown = false ∧
      (s.worker.step .subscribe).next.map Scheduled.due = u
    rw [hnext, hshutdown]
    exact h u hstanding hphase
  | poison => exact h u hstanding hphase
  | check now => exact h.check now u hstanding hphase
  | finish outcome now =>
    change (s.worker.finish outcome now).phase = .asleep u at hphase
    have hsame := finish_of_asleep hphase
    rw [hsame] at hphase
    show (s.worker.finish outcome now).shutdown = false ∧
      (s.worker.finish outcome now).next.map Scheduled.due = u
    rw [hsame]
    exact h u hstanding hphase
  | crash =>
    change s.worker.crash.phase = .asleep u at hphase
    have hsame := crash_of_asleep hphase
    rw [hsame] at hphase
    show s.worker.crash.shutdown = false ∧ s.worker.crash.next.map Scheduled.due = u
    rw [hsame]
    exact h u hstanding hphase

theorem run (h : s.Attentive) (ms : List Move) : (s.run ms).Attentive := by
  induction ms generalizing s with
  | nil => exact h
  | cons m ms ih => exact ih (h.step m)

end Attentive

/-! ### Whole steps -/

/-- The moves that an event of an interleaving of whole steps is made of: selecting and deselecting
wake the worker right after they have made their change. -/
def moves : Event → List Move
  | .select c now => [.change (.select c now), .notify]
  | .deselect => [.change .deselect, .notify]
  | .subscribe => [.subscribe]
  | .requestShutdown => [.change .requestShutdown]
  | .notify => [.notify]
  | .wake => [.wake]
  | .check now => [.check now]
  | .finish outcome now => [.finish outcome now]
  | .crash => [.crash]

/-- The moves of an event do what the event does. -/
theorem worker_moves (s : Scene σ) (h : s.worker.poisoned = false) (e : Event) :
    (s.run (moves e)).worker = s.worker.step e := by
  have husable : ¬ (s.worker.poisoned = true) := by simp [h]
  cases e with
  | select c now =>
    rw [step_select, if_neg husable]
    show (s.worker.change (.select c now)).notify = _
    rw [change, if_neg husable]
  | deselect =>
    rw [step_deselect, if_neg husable]
    show (s.worker.change .deselect).notify = _
    rw [change, if_neg husable]
  | subscribe => rfl
  | requestShutdown => rfl
  | notify => rfl
  | wake => rfl
  | check now => rfl
  | finish outcome now => rfl
  | crash => rfl

/-- The moves of an interleaving of whole steps do what the interleaving does. -/
theorem worker_run_moves (s : Scene σ) (h : s.worker.poisoned = false) (es : List Event) :
    (s.run (es.flatMap moves)).worker = s.worker.run es := by
  induction es generalizing s with
  | nil => rfl
  | cons e es ih =>
    have hfirst := worker_moves s h e
    have husable : (s.run (moves e)).worker.poisoned = false := by
      rw [hfirst, poisoned_step]
      exact h
    rw [List.flatMap_cons, run_append, ih _ husable, hfirst]
    rfl

end Scene

/-! ### The statement -/

/-- **No call is slept through.** Start a worker on any poller, let its moves and those of the
controls be interleaved in any way, with wakings for no reason among them, and look at a moment when
no call stands between its change and its waking.  If the worker sleeps without end then, nothing is
scheduled and it was not asked to exit; if it sleeps until a moment, what is scheduled is due at that
moment and it was not asked to exit.  Every interleaving of whole steps is an interleaving of
moves. -/
theorem no_call_slept_through (p : Poller σ) :
    (∀ ms : List Move,
      let s := ({ worker := Worker.spawn p } : Scene σ).run ms
      s.standing = 0 →
        (s.worker.phase = .asleep none → s.worker.next = none ∧ s.worker.shutdown = false) ∧
        ∀ due, s.worker.phase = .asleep (some due) →
          (∃ r, s.worker.next = some r ∧ r.due = due) ∧ s.worker.shutdown = false) ∧
    ∀ es : List Event,
      (({ worker := Worker.spawn p } : Scene σ).run (es.flatMap Scene.moves)).worker =
        (Worker.spawn p).run es := by
  refine ⟨?_, Scene.worker_run_moves { worker := Worker.spawn p } rfl⟩
  intro ms s hstanding
  have h : s.Attentive := (Scene.Attentive.spawn p).run ms
  refine ⟨?_, ?_⟩
  · intro hphase
    obtain ⟨hshutdown, hnext⟩ := h none hstanding hphase
    exact ⟨Option.map_eq_none_iff.mp hnext, hshutdown⟩
  · intro due hphase
    obtain ⟨hshutdown, hnext⟩ := h (some due) hstanding hphase
    exact ⟨Option.map_eq_some_iff.mp hnext, hshutdown⟩

/-- A channel is deselected while the worker is about to look at the schedule, so that the waking
comes too late and wakes nobody; and a channel that does not answer is waited for.  The worker sleeps
without end in the first case, and until the next fetch is due in the second. -/
theorem sleeps_with_nothing_to_do :
    let p : Poller Recorder := { policy := {}, display := { surface := {} } }
    let s := ({ worker := Worker.spawn p } : Scene Recorder).run
      [.change (.select ⟨"lobby"⟩ ⟨0⟩), .check ⟨1⟩, .notify, .finish (.error (.status 503)) ⟨2⟩,
        .change .deselect, .check ⟨3⟩, .notify, .check ⟨4⟩]
    let s' := ({ worker := Worker.spawn p } : Scene Recorder).run
      [.check ⟨0⟩, .change (.select ⟨"lobby"⟩ ⟨1⟩), .notify, .check ⟨2⟩,
        .finish (.error (.status 503)) ⟨3⟩, .check ⟨4⟩, .wake, .check ⟨5⟩]
    (s.standing = 0 ∧ s.worker.phase = .asleep none ∧ s.worker.next = none ∧
      s.worker.shutdown = false) ∧
    s'.standing = 0 ∧ s'.worker.phase = .asleep (some ⟨10000000003⟩) ∧
      (∃ r, s'.worker.next = some r ∧ r.due = ⟨10000000003⟩) ∧ s'.worker.shutdown = false := by
  intro p s s'
  have hstanding : s.standing = 0 := by decide
  have hphase : s.worker.phase = .asleep none := by decide
  have hstanding' : s'.standing = 0 := by decide
  have hphase' : s'.worker.phase = .asleep (some ⟨10000000003⟩) := by decide
  exact ⟨⟨hstanding, hphase, ((no_call_slept_through p).1 _ hstanding).1 hphase⟩,
    hstanding', hphase', ((no_call_slept_through p).1 _ hstanding').2 _ hphase'⟩

end Lookout.Worker
