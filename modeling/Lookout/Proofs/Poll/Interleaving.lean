import Mathlib.Logic.Basic
import Lookout.Display.Recorder
import Lookout.Poll.Worker
import Lookout.Proofs.Poll.Selection
/-!
# The worker under any interleaving

The worker and the controls share the poller and its schedule under a lock.  An interleaving is a
list of events, each what one of them does between taking the lock and releasing it
(`Worker.Event`); `Worker.step` carries one out and `Worker.run` a list of them.  The moments in
the events are arbitrary, and so are the outcomes of fetches.

* **Polling is neither lost nor doubled** (`polling_neither_lost_nor_doubled`): at every point of
  every interleaving, as long as a channel is selected and the worker is not done, its current
  request is either scheduled or being fetched, and never both.
* The proof carries `Worker.Orderly` along.  What is scheduled is current; what is being fetched was
  given under a number that is not above the one in force, so a new selection outdates it; and while
  it is current nothing else is scheduled, so the next request can be put in the schedule when the
  outcome comes back.
-/

namespace Lookout.Worker

/-- Something that happens under the lock, or to the worker while it does not have the lock. -/
inductive Event where
  /-- A channel is selected. -/
  | select (c : ChannelId) (now : Moment)
  /-- Nothing is selected any more. -/
  | deselect
  /-- Someone asks to be told about changes of health. -/
  | subscribe
  /-- The worker is asked to exit; the controls wake it by an event of its own. -/
  | requestShutdown
  /-- The controls wake the worker. -/
  | notify
  /-- The worker wakes up by itself. -/
  | wake
  /-- The worker looks at the schedule. -/
  | check (now : Moment)
  /-- The worker hands back the outcome of a fetch. -/
  | finish (outcome : Except ClientError (Frame Float)) (now : Moment)
  /-- Fetching panics. -/
  | crash

variable {σ : Type}

/-! ### Waking up -/

@[simp] theorem notify_poller (w : Worker σ) : w.notify.poller = w.poller := by
  unfold notify
  split <;> rfl

@[simp] theorem notify_next (w : Worker σ) : w.notify.next = w.next := by
  unfold notify
  split <;> rfl

@[simp] theorem notify_poisoned (w : Worker σ) : w.notify.poisoned = w.poisoned := by
  unfold notify
  split <;> rfl

@[simp] theorem notify_shutdown (w : Worker σ) : w.notify.shutdown = w.shutdown := by
  unfold notify
  split <;> rfl

@[simp] theorem notify_join? (w : Worker σ) : w.notify.join? = w.join? := by
  unfold notify
  split
  · rename_i h
    simp [join?, h]
  · rfl

/-- Waking the worker neither begins nor ends a fetch. -/
@[simp] theorem notify_fetching_iff (w : Worker σ) (t : Ticket) :
    w.notify.phase = .fetching t ↔ w.phase = .fetching t := by
  unfold notify
  split
  · rename_i h
    simp [h]
  · rfl

@[simp] theorem notify_fetching? (w : Worker σ) : w.notify.fetching? = w.fetching? := by
  unfold notify
  split
  · rename_i h
    simp [fetching?, h]
  · rfl

/-! ### What the steps do -/

/-- All that can come of looking at the schedule. -/
inductive Checked (w : Worker σ) (now : Moment) : Worker σ → Prop where
  /-- The worker does something else. -/
  | elsewhere (phase : w.phase ≠ .checking) : Checked w now w
  /-- The worker is to exit. -/
  | exits (phase : w.phase = .checking) (ended : w.poisoned = true ∨ w.shutdown = true) :
    Checked w now { w with phase := .exited }
  /-- There is nothing to do. -/
  | rests (phase : w.phase = .checking) (shutdown : w.shutdown = false) (next : w.next = none) :
    Checked w now { w with phase := .asleep none }
  /-- It is too early. -/
  | waits (phase : w.phase = .checking) (shutdown : w.shutdown = false) (s : Scheduled)
    (next : w.next = some s) (early : now < s.due) :
    Checked w now { w with phase := .asleep (some s.due) }
  /-- The scheduled request goes out. -/
  | begins (phase : w.phase = .checking) (shutdown : w.shutdown = false) (s : Scheduled)
    (next : w.next = some s) (due : ¬ now < s.due) (current : w.poller.isCurrent s.ticket = true) :
    Checked w now { w with
      poller := { w.poller with state := .requesting }
      next := none
      phase := .fetching s.ticket }
  /-- The scheduled request is out of date. -/
  | drops (phase : w.phase = .checking) (shutdown : w.shutdown = false) (s : Scheduled)
    (next : w.next = some s) (stale : w.poller.isCurrent s.ticket = false) :
    Checked w now { w with next := none, phase := .asleep none }

theorem checked (w : Worker σ) (now : Moment) : w.Checked now (w.check now) := by
  unfold check
  split
  case h_2 hphase => exact .elsewhere hphase
  case h_1 hphase =>
    split
    case isTrue hover => exact .exits hphase (by simpa using hover)
    case isFalse hgoes =>
      have hshutdown : w.shutdown = false := by
        simp only [Bool.or_eq_true, not_or, Bool.not_eq_true] at hgoes
        exact hgoes.2
      split
      case h_1 hnext => exact .rests hphase hshutdown hnext
      case h_2 s hnext =>
        split
        case isTrue hearly => exact .waits hphase hshutdown s hnext hearly
        case isFalse hdue =>
          rcases hcur : w.poller.isCurrent s.ticket with _ | _
          · rw [Poller.begin_of_stale hcur]
            exact .drops hphase hshutdown s hnext hcur
          · rw [Poller.begin_of_current hcur]
            exact .begins hphase hshutdown s hnext hdue hcur

section finish

variable [Surface σ] {w : Worker σ} {t : Ticket}

theorem finish_of_not_fetching (h : ∀ t, w.phase ≠ .fetching t)
    (outcome : Except ClientError (Frame Float)) (now : Moment) : w.finish outcome now = w := by
  unfold finish
  split
  · rename_i t ht
    exact absurd ht (h t)
  · rfl

/-- The outcome of a request that is out of date only ends the fetch. -/
theorem finish_of_stale (husable : w.poisoned = false) (hphase : w.phase = .fetching t)
    (hcur : w.poller.isCurrent t = false) (outcome : Except ClientError (Frame Float))
    (now : Moment) : w.finish outcome now = { w with phase := .checking } := by
  unfold finish
  simp only [hphase, Poller.complete_of_stale hcur]
  rw [if_neg (by simp [husable])]

/-- The outcome of a request that is current is taken into account, and the request scheduled again
after the delay for that outcome, unless another one is. -/
theorem finish_of_current (husable : w.poisoned = false) (hphase : w.phase = .fetching t)
    (hcur : w.poller.isCurrent t = true) (outcome : Except ClientError (Frame Float))
    (now : Moment) :
    w.finish outcome now = { w with
      poller := (w.poller.complete t outcome).2
      next := w.next <|> some ⟨t, now.after (w.poller.policy.delayAfter outcome)⟩
      phase := .checking } := by
  obtain ⟨state, changed, happlied⟩ := Poller.complete_of_current hcur outcome
  unfold finish
  simp only [hphase, happlied]
  rw [if_neg (by simp [husable])]

end finish

/-! ### What is pursued -/

/-- The current request is scheduled. -/
def SchedulesCurrent (w : Worker σ) : Prop :=
  ∃ s, w.next = some s ∧ w.poller.currentTicket = some s.ticket

/-- The current request is being fetched. -/
def FetchesCurrent (w : Worker σ) : Prop :=
  ∃ t, w.phase = .fetching t ∧ w.poller.currentTicket = some t

/-- What holds of the worker and its schedule at every point of every interleaving. -/
structure Orderly (w : Worker σ) : Prop where
  /-- The shared state is usable. -/
  usable : w.poisoned = false
  /-- What is scheduled is current. -/
  scheduled : ∀ s, w.next = some s → w.poller.isCurrent s.ticket = true
  /-- What is being fetched was given by the last selection or an earlier one. -/
  notAhead : ∀ t, w.phase = .fetching t → t.generation ≤ w.poller.generation
  /-- While a request that is current is being fetched, nothing is scheduled. -/
  alone : ∀ t, w.phase = .fetching t → w.poller.isCurrent t = true →
    w.poller.state = .requesting ∧ w.next = none
  /-- The selected channel is pursued. -/
  pursued : w.poller.selected ≠ none → w.join? = none → w.next ≠ none ∨ w.FetchesCurrent

namespace Orderly

variable {w w' : Worker σ}

/-- A worker that has just been started on a poller without a selection. -/
theorem spawn {p : Poller σ} (h : p.selected = none) : Orderly (Worker.spawn p) where
  usable := rfl
  scheduled := fun s hs => by cases hs
  notAhead := fun t ht => by cases ht
  alone := fun t ht => by cases ht
  pursued := fun hsel => absurd h hsel

/-- A change of the phase alone keeps the order if it ends a fetch only by being done. -/
theorem of_phase (h : Orderly w) (hpoller : w'.poller = w.poller) (hnext : w'.next = w.next)
    (husable : w'.poisoned = w.poisoned)
    (hfetch : ∀ t, w'.phase = .fetching t → w.phase = .fetching t)
    (hkeep : w'.join? = none →
      w.join? = none ∧ ∀ t, w.phase = .fetching t → w'.phase = .fetching t) :
    Orderly w' where
  usable := husable.trans h.usable
  scheduled := fun s hs => by
    rw [hpoller]
    exact h.scheduled s (hnext ▸ hs)
  notAhead := fun t ht => by
    rw [hpoller]
    exact h.notAhead t (hfetch t ht)
  alone := fun t ht => by
    rw [hpoller, hnext]
    exact h.alone t (hfetch t ht)
  pursued := fun hsel hjoin => by
    rw [hpoller] at hsel
    obtain ⟨hjoin, hstays⟩ := hkeep hjoin
    rcases h.pursued hsel hjoin with hn | ⟨t, ht, hcur⟩
    · exact Or.inl (hnext ▸ hn)
    · refine Or.inr ⟨t, hstays t ht, ?_⟩
      rw [hpoller]
      exact hcur

theorem notify (h : Orderly w) : Orderly w.notify :=
  h.of_phase (notify_poller w) (notify_next w) (notify_poisoned w)
    (fun t => (notify_fetching_iff w t).mp)
    fun hjoin => ⟨(notify_join? w).symm.trans hjoin, fun t => (notify_fetching_iff w t).mpr⟩

/-- The request that is scheduled is the one that would be made now. -/
theorem currentTicket_of_next (h : Orderly w) {s : Scheduled}
    (hs : w.next = some s) : w.poller.currentTicket = some s.ticket :=
  (Poller.isCurrent_iff w.poller s.ticket).mp (h.scheduled s hs)

/-- While the worker is at work the current request is either scheduled or being fetched. -/
theorem xor (h : Orderly w) (hsel : w.poller.selected ≠ none)
    (hlive : w.join? = none) : Xor w.SchedulesCurrent w.FetchesCurrent := by
  rcases hnext : w.next with _ | s
  · rcases h.pursued hsel hlive with hn | hf
    · exact absurd hnext hn
    · refine Or.inr ⟨hf, ?_⟩
      rintro ⟨s, hs, -⟩
      rw [hnext] at hs
      cases hs
  · refine Or.inl ⟨⟨s, hnext, h.currentTicket_of_next hnext⟩, ?_⟩
    rintro ⟨t, ht, hcur⟩
    have hnone : w.next = none := (h.alone t ht ((Poller.isCurrent_iff w.poller t).mpr hcur)).2
    rw [hnext] at hnone
    cases hnone

/-! ### Steps of the controls -/

/-- A new selection is scheduled, and outdates whatever is being fetched. -/
theorem select (h : Orderly w) (c : ChannelId) (now : Moment) :
    Orderly { w with
      poller := (w.poller.select c).2
      next := some ⟨(w.poller.select c).1, now⟩ } where
  usable := h.usable
  scheduled := fun s hs => by
    rw [← Option.some.inj hs]
    exact Poller.isCurrent_select w.poller c
  notAhead := fun t ht => Nat.le_succ_of_le (h.notAhead t ht)
  alone := fun t ht hcur => by
    rw [Poller.isCurrent_select_of_le (h.notAhead t ht)] at hcur
    cases hcur
  pursued := fun _ _ => Or.inl nofun

/-- Without a selection nothing is scheduled, and nothing is current. -/
theorem deselect (h : Orderly w) :
    Orderly { w with poller := w.poller.deselect, next := none } where
  usable := h.usable
  scheduled := fun s hs => by cases hs
  notAhead := fun t ht => Nat.le_succ_of_le (h.notAhead t ht)
  alone := fun t _ hcur => by
    rw [Poller.isCurrent_deselect] at hcur
    cases hcur
  pursued := fun hsel _ => absurd rfl hsel

/-- Who is told about changes of health is no matter of the schedule. -/
theorem setHealth (h : Orderly w) (health : HealthStore) :
    Orderly { w with poller := { w.poller with health } } where
  usable := h.usable
  scheduled := h.scheduled
  notAhead := h.notAhead
  alone := h.alone
  pursued := h.pursued

theorem requestShutdown (h : Orderly w) : Orderly w.requestShutdown := by
  unfold Worker.requestShutdown
  split
  · exact h
  · exact h.of_phase rfl rfl rfl (fun t ht => ht) fun hjoin => ⟨hjoin, fun t ht => ht⟩

/-! ### Steps of the worker -/

/-- A scheduled request that goes out leaves the schedule empty. -/
theorem begin {s : Scheduled} (h : Orderly w) (hcur : w.poller.isCurrent s.ticket = true) :
    Orderly { w with
      poller := { w.poller with state := .requesting }
      next := none
      phase := .fetching s.ticket } where
  usable := h.usable
  scheduled := fun s hs => by cases hs
  notAhead := fun t ht => by
    cases ht
    exact Nat.le_of_eq (Poller.generation_of_isCurrent hcur)
  alone := fun t _ _ => ⟨rfl, rfl⟩
  pursued := fun _ _ => Or.inr ⟨s.ticket, rfl, (Poller.isCurrent_iff w.poller s.ticket).mp hcur⟩

/-- A worker that stops looking at the schedule without beginning a fetch. -/
theorem still (h : Orderly w) (hphase : w.phase = .checking) {phase : Phase}
    (hnew : ∀ t, phase ≠ .fetching t) : Orderly { w with phase } := by
  have hlive : w.join? = none := by simp [join?, hphase]
  have hidle : ∀ t, w.phase ≠ .fetching t := by simp [hphase]
  exact h.of_phase rfl rfl rfl (fun t ht => absurd ht (hnew t))
    fun _ => ⟨hlive, fun t ht => absurd ht (hidle t)⟩

/-- A worker that looks at the schedule takes from it only what it begins to fetch. -/
theorem check (h : Orderly w) (now : Moment) : Orderly (w.check now) := by
  have hchecked := w.checked now
  generalize w.check now = w' at hchecked ⊢
  cases hchecked with
  | elsewhere => exact h
  | exits hphase => exact h.still hphase nofun
  | rests hphase => exact h.still hphase nofun
  | waits hphase => exact h.still hphase nofun
  | begins _ _ s _ _ hcur => exact h.begin hcur
  | drops _ _ s hnext hstale =>
    rw [h.scheduled s hnext] at hstale
    cases hstale

theorem crash (h : Orderly w) : Orderly w.crash := by
  unfold Worker.crash
  split
  · exact h.of_phase rfl rfl rfl (fun t ht => by cases ht) fun hjoin => by cases hjoin
  · exact h

variable [Surface σ]

/-- An outcome that counts is followed by the next request; any other is dropped, and what is
scheduled stays. -/
theorem finish (h : Orderly w) (outcome : Except ClientError (Frame Float)) (now : Moment) :
    Orderly (w.finish outcome now) := by
  by_cases hphase : ∃ t, w.phase = .fetching t
  · obtain ⟨t, hphase⟩ := hphase
    have hlive : w.join? = none := by simp [join?, hphase]
    rcases hcur : w.poller.isCurrent t with _ | _
    · rw [finish_of_stale h.usable hphase hcur]
      refine ⟨h.usable, h.scheduled, (fun _ ht => by cases ht), (fun _ ht => by cases ht), ?_⟩
      intro hsel _
      rcases h.pursued hsel hlive with hnext | ⟨t', ht', hcur'⟩
      · exact Or.inl hnext
      · have heq : t' = t := by rw [hphase] at ht'; cases ht'; rfl
        rw [← Poller.isCurrent_iff, heq, hcur] at hcur'
        cases hcur'
    · have heq := finish_of_current h.usable hphase hcur outcome now
      obtain ⟨hselected, hgeneration⟩ := Poller.complete_keeps_selection w.poller t outcome
      have hnext : w.next = none := (h.alone t hphase hcur).2
      rw [heq, hnext]
      refine ⟨h.usable, ?_, (fun _ ht => by cases ht), (fun _ ht => by cases ht),
        fun _ _ => Or.inl nofun⟩
      intro s hs
      rw [← Option.some.inj hs, Poller.isCurrent_congr hselected hgeneration]
      exact hcur
  · rw [finish_of_not_fetching (not_exists.mp hphase)]
    exact h

end Orderly

/-! ### Runs -/

variable [Surface σ]

/-- What an event does.  A call that is refused changes nothing. -/
def step (w : Worker σ) : Event → Worker σ
  | .select c now =>
    match w.select c now with
    | .ok (_, w) => w
    | .error _ => w
  | .deselect =>
    match w.deselect with
    | .ok w => w
    | .error _ => w
  | .subscribe =>
    match w.subscribe with
    | .ok (_, w) => w
    | .error _ => w
  | .requestShutdown => w.requestShutdown
  | .notify => w.notify
  | .wake => w.wake
  | .check now => w.check now
  | .finish outcome now => w.finish outcome now
  | .crash => w.crash

/-- What the events of an interleaving do. -/
def run (w : Worker σ) : List Event → Worker σ
  | [] => w
  | e :: es => (w.step e).run es

/-- The worker begins a fetch with an event. -/
def BeginsFetch (w : Worker σ) (e : Event) : Prop :=
  w.fetching? = none ∧ (w.step e).fetching? ≠ none

theorem step_select (w : Worker σ) (c : ChannelId) (now : Moment) :
    w.step (.select c now) = if w.poisoned then w else Worker.notify { w with
      poller := (w.poller.select c).2
      next := some ⟨(w.poller.select c).1, now⟩ } := by
  simp only [step, Worker.select, locked]
  by_cases h : w.poisoned = true
  · rw [if_pos h, if_pos h]
  · rw [if_neg h, if_neg h]

theorem step_deselect (w : Worker σ) :
    w.step .deselect = if w.poisoned then w else
      Worker.notify { w with poller := w.poller.deselect, next := none } := by
  simp only [step, Worker.deselect, locked]
  by_cases h : w.poisoned = true
  · rw [if_pos h, if_pos h]
  · rw [if_neg h, if_neg h]

theorem step_subscribe (w : Worker σ) :
    w.step .subscribe = if w.poisoned then w else
      { w with poller := { w.poller with health := w.poller.health.subscribe.2 } } := by
  simp only [step, Worker.subscribe, locked]
  by_cases h : w.poisoned = true
  · rw [if_pos h, if_pos h]
  · rw [if_neg h, if_neg h]

/-- Every event keeps the order. -/
theorem Orderly.step {w : Worker σ} (h : Orderly w) (e : Event) : Orderly (w.step e) := by
  have husable : ¬ (w.poisoned = true) := by simp [h.usable]
  cases e with
  | select c now =>
    rw [step_select, if_neg husable]
    exact (h.select c now).notify
  | deselect =>
    rw [step_deselect, if_neg husable]
    exact h.deselect.notify
  | subscribe =>
    rw [step_subscribe, if_neg husable]
    exact h.setHealth _
  | requestShutdown => exact h.requestShutdown
  | notify => exact h.notify
  | wake => exact h.notify
  | check now => exact h.check now
  | finish outcome now => exact h.finish outcome now
  | crash => exact h.crash

/-- Every interleaving keeps the order. -/
theorem Orderly.run {w : Worker σ} (h : Orderly w) (es : List Event) : Orderly (w.run es) := by
  induction es generalizing w with
  | nil => exact h
  | cons e es ih => exact ih (h.step e)

/-! ### Shutting down -/

/-- The event is no step of the worker and does not ask it to exit; it may wake the worker. -/
def Event.isAside : Event → Bool
  | .select _ _ => true
  | .deselect => true
  | .subscribe => true
  | .notify => true
  | .wake => true
  | _ => false

/-- Aside from its own steps the worker goes on as it was asked to, and what it shares stays
usable. -/
theorem step_of_isAside {e : Event} (h : e.isAside = true) (w : Worker σ) :
    (w.step e).shutdown = w.shutdown ∧ (w.step e).fetching? = w.fetching? ∧
      (w.step e).poisoned = w.poisoned := by
  cases e with
  | select c now =>
    rw [step_select]
    split
    · exact ⟨rfl, rfl, rfl⟩
    · exact ⟨notify_shutdown _, notify_fetching? _, notify_poisoned _⟩
  | deselect =>
    rw [step_deselect]
    split
    · exact ⟨rfl, rfl, rfl⟩
    · exact ⟨notify_shutdown _, notify_fetching? _, notify_poisoned _⟩
  | subscribe =>
    rw [step_subscribe]
    split
    · exact ⟨rfl, rfl, rfl⟩
    · exact ⟨rfl, rfl, rfl⟩
  | notify => exact ⟨notify_shutdown w, notify_fetching? w, notify_poisoned w⟩
  | wake => exact ⟨notify_shutdown w, notify_fetching? w, notify_poisoned w⟩
  | requestShutdown => cases h
  | check now => cases h
  | finish outcome now => cases h
  | crash => cases h

/-- Once the worker is asked to exit it stays asked. -/
theorem shutdown_step {w : Worker σ} (h : w.shutdown = true) (e : Event) :
    (w.step e).shutdown = true := by
  cases e with
  | select c now => exact (step_of_isAside rfl w).1.trans h
  | deselect => exact (step_of_isAside rfl w).1.trans h
  | subscribe => exact (step_of_isAside rfl w).1.trans h
  | notify => exact (step_of_isAside rfl w).1.trans h
  | wake => exact (step_of_isAside rfl w).1.trans h
  | requestShutdown =>
    show w.requestShutdown.shutdown = true
    unfold Worker.requestShutdown
    split
    · exact h
    · rfl
  | check now =>
    show (w.check now).shutdown = true
    unfold check
    split
    · rw [if_pos (by simp [h])]
      exact h
    · exact h
  | finish outcome now =>
    show (w.finish outcome now).shutdown = true
    unfold finish
    split
    · split
      · exact h
      · exact h
    · exact h
  | crash =>
    show w.crash.shutdown = true
    unfold crash
    split
    · exact h
    · exact h

theorem shutdown_run {w : Worker σ} (h : w.shutdown = true) (es : List Event) :
    (w.run es).shutdown = true := by
  induction es generalizing w with
  | nil => exact h
  | cons e es ih => exact ih (shutdown_step h e)

/-- A fetch begins only where the worker looks at the schedule and takes a request from it. -/
theorem exists_check_of_beginsFetch {w : Worker σ} {e : Event} (h : w.BeginsFetch e) :
    ∃ now s, e = .check now ∧ w.phase = .checking ∧ w.shutdown = false ∧ w.next = some s ∧
      ¬ now < s.due ∧ w.poller.isCurrent s.ticket = true ∧
      w.check now = { w with
        poller := { w.poller with state := .requesting }
        next := none
        phase := .fetching s.ticket } := by
  obtain ⟨hidle, hbegun⟩ := h
  have haside : ¬ e.isAside = true := fun hyes =>
    hbegun ((step_of_isAside hyes w).2.1.trans hidle)
  cases e with
  | select c now => exact absurd rfl haside
  | deselect => exact absurd rfl haside
  | subscribe => exact absurd rfl haside
  | notify => exact absurd rfl haside
  | wake => exact absurd rfl haside
  | requestShutdown =>
    refine absurd ?_ hbegun
    show w.requestShutdown.fetching? = none
    unfold Worker.requestShutdown
    split
    · exact hidle
    · exact hidle
  | check now =>
    change (w.check now).fetching? ≠ none at hbegun
    have hchecked := w.checked now
    generalize hw : w.check now = w' at hbegun hchecked
    cases hchecked with
    | elsewhere => exact absurd hidle hbegun
    | exits => exact absurd rfl hbegun
    | rests => exact absurd rfl hbegun
    | waits => exact absurd rfl hbegun
    | drops => exact absurd rfl hbegun
    | begins hphase hshutdown s hnext hdue hcur =>
      exact ⟨now, s, rfl, hphase, hshutdown, hnext, hdue, hcur, hw⟩
  | finish outcome now =>
    refine absurd ?_ hbegun
    show (w.finish outcome now).fetching? = none
    unfold finish
    split
    · split
      · rfl
      · rfl
    · exact hidle
  | crash =>
    refine absurd ?_ hbegun
    show w.crash.fetching? = none
    unfold crash
    split
    · rfl
    · exact hidle

/-- A worker that was asked to exit begins no fetch. -/
theorem not_beginsFetch_of_shutdown {w : Worker σ} (h : w.shutdown = true) (e : Event) :
    ¬ w.BeginsFetch e := by
  intro hbegins
  obtain ⟨now, s, -, -, hgoes, -⟩ := exists_check_of_beginsFetch hbegins
  rw [h] at hgoes
  cases hgoes

/-! ### The statement -/

/-- **Polling is neither lost nor doubled.** Start a worker on a poller without a selection, and let
its steps and those of the controls be interleaved in any way.  Then no call is refused; (a) what is
scheduled is the current request; (b) while a channel is selected and the worker is not done, the
current request is scheduled or being fetched, and not both; (c) without a selection nothing is
scheduled; (d) an outcome is taken into account only while the poller is requesting and nothing is
scheduled; (e) no fetch begins once the worker was asked to exit, whatever happens later. -/
theorem polling_neither_lost_nor_doubled (p : Poller σ) (hp : p.selected = none)
    (es : List Event) :
    let w := (Worker.spawn p).run es
    w.poisoned = false ∧
      (∀ s, w.next = some s → w.poller.currentTicket = some s.ticket) ∧
      (w.poller.selected ≠ none → w.join? = none → Xor w.SchedulesCurrent w.FetchesCurrent) ∧
      (w.poller.selected = none → w.next = none) ∧
      (∀ t outcome state delay changed, w.phase = .fetching t →
        (w.poller.complete t outcome).1 = .applied state delay changed →
          w.poller.state = .requesting ∧ w.next = none) ∧
      (w.shutdown = true → ∀ later e, ¬ (w.run later).BeginsFetch e) := by
  intro w
  have h : Orderly w := (Orderly.spawn hp).run es
  refine ⟨h.usable, fun s => h.currentTicket_of_next, h.xor, ?_, ?_, ?_⟩
  · intro hsel
    rcases hnext : w.next with _ | s
    · rfl
    · have hcur := h.currentTicket_of_next hnext
      rw [Poller.currentTicket, hsel] at hcur
      cases hcur
  · intro t outcome state delay changed ht happlied
    rcases hcur : w.poller.isCurrent t with _ | _
    · rw [Poller.complete_of_stale hcur] at happlied
      cases happlied
    · exact h.alone t ht hcur
  · intro hdown later e
    exact not_beginsFetch_of_shutdown (shutdown_run hdown later) e

/-- A channel that is selected again while its picture is being fetched is polled once. -/
theorem polling_reselected_channel :
    let p : Poller Recorder := { policy := {}, display := { surface := {} } }
    let w := (Worker.spawn p).run [.select ⟨"lobby"⟩ ⟨0⟩, .check ⟨1⟩, .select ⟨"lobby"⟩ ⟨2⟩]
    p.selected = none ∧ w.poller.selected ≠ none ∧ w.join? = none ∧
      Xor w.SchedulesCurrent w.FetchesCurrent := by
  intro p w
  have hsel : w.poller.selected ≠ none := by decide
  have hlive : w.join? = none := by decide
  exact ⟨rfl, hsel, hlive, (polling_neither_lost_nor_doubled p rfl _).2.2.1 hsel hlive⟩

end Lookout.Worker
