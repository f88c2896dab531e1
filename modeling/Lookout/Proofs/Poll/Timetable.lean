import Lookout.Proofs.Poll.Interleaving
/-!
# When fetches begin

The worker is followed through any interleaving with the controls (`Worker.run`), and a record is
kept of what concerns the timetable: changes of the selection, fetches that begin, and outcomes that
are handed back, each with the moment that was read for it (`Worker.notes`).  The moments are
arbitrary, so a clock that never goes back is a case of what is said here.

* **Fetches begin when they are due** (`fetches_begin_when_due`): a fetch begins by taking what is
  scheduled, for the channel that is selected then, and not before it is due.  The first fetch of a
  selection is due when the selection was made; every later one is due a delay after the moment at
  which the outcome of the one before was handed back, and that outcome alone decides on the delay.
* **Fetches do not overlap** (part of the same statement): when a fetch begins, every fetch that
  began before has ended.

The proof ties the worker to the record (`Worker.Timely`).  What is scheduled carries the reason why
it is due when it is (`Worker.DueOn`).  While a request that is still current is being fetched, the
record ends with the beginning of that fetch, since whatever else is noted meanwhile is a change of
the selection; so the outcome of the fetch, once it is noted, is the reason for the next due time.
-/

namespace Lookout.Worker

/-- Something that concerns the timetable. -/
inductive Note where
  /-- A channel was selected at a moment, which gave a request. -/
  | selected (t : Ticket) (time : Moment)
  /-- Nothing is selected any more. -/
  | deselected
  /-- The fetch for a request began; it was due at the first moment and began at the second. -/
  | began (t : Ticket) (due time : Moment)
  /-- The outcome of a fetch was handed back at a moment. -/
  | ended (t : Ticket) (outcome : Except ClientError (Frame Float)) (time : Moment)

namespace Note

/-- The selection is another one afterwards. -/
def selects : Note → Bool
  | .selected _ _ => true
  | .deselected => true
  | _ => false

/-- A fetch began. -/
def begins : Note → Bool
  | .began _ _ _ => true
  | _ => false

end Note

/-! ### Reading the record -/

/-- The selection does not change. -/
def Steady (ns : List Note) : Prop := ∀ n ∈ ns, n.selects = false

/-- No fetch begins. -/
def Quiet (ns : List Note) : Prop := ∀ n ∈ ns, n.begins = false

/-- Every fetch that begins also ends. -/
def Finished : List Note → Prop
  | [] => True
  | .began t _ _ :: ns => (∃ outcome time, .ended t outcome time ∈ ns) ∧ Finished ns
  | _ :: ns => Finished ns

/-- The request was given by the selection that is in force. -/
def InForce (past : List Note) (t : Ticket) : Prop :=
  ∃ before made since, past = before ++ .selected t made :: since ∧ Steady since

/-- Why a request is due at a moment, given what has been noted. -/
inductive DueOn (policy : PollPolicy) (past : List Note) (t : Ticket) (due : Moment) : Prop where
  /-- Its selection was made then, is in force, and has led to no fetch yet. -/
  | first (before since : List Note) (split : past = before ++ .selected t due :: since)
    (steady : Steady since) (quiet : Quiet since)
  /-- Its selection is in force, the last fetch was one for the same selection, and the delay for the
  outcome of that fetch is over then. -/
  | later (before since after : List Note) (made due' begun time : Moment)
    (outcome : Except ClientError (Frame Float))
    (split : past = before ++ .selected t made ::
      (since ++ .began t due' begun :: .ended t outcome time :: after))
    (steady : Steady since ∧ Steady after) (quiet : Quiet after)
    (delayed : due = time.after (policy.delayAfter outcome))

/-- The last fetch that began is for the request, and the ones before it have ended. -/
def Fetching (past : List Note) (t : Ticket) : Prop :=
  ∃ before due time since, past = before ++ .began t due time :: since ∧ Finished before ∧ Quiet since

/-- The request was given by the selection that is in force, and its fetch has just begun. -/
def Underway (past : List Note) (t : Ticket) : Prop :=
  ∃ before made since due time,
    past = before ++ .selected t made :: (since ++ [.began t due time]) ∧ Steady since

section record

variable {policy : PollPolicy} {past : List Note} {t : Ticket} {due : Moment} {n : Note}

theorem Finished.append {ns ms : List Note} (hns : Finished ns) (hms : Finished ms) :
    Finished (ns ++ ms) := by
  induction ns with
  | nil => exact hms
  | cons n ns ih =>
    cases n with
    | began t due time =>
      obtain ⟨⟨outcome, time', hmem⟩, hrest⟩ := hns
      exact ⟨⟨outcome, time', List.mem_append_left _ hmem⟩, ih hrest⟩
    | selected t time => exact ih hns
    | deselected => exact ih hns
    | ended t outcome time => exact ih hns

/-- Where no fetch begins there is none to end. -/
theorem Quiet.finished {ns : List Note} (h : Quiet ns) : Finished ns := by
  induction ns with
  | nil => trivial
  | cons n ns ih =>
    have hrest : Finished ns := ih fun m hm => h m (List.mem_cons_of_mem _ hm)
    cases n with
    | began t due time => cases h _ List.mem_cons_self
    | selected t time => exact hrest
    | deselected => exact hrest
    | ended t outcome time => exact hrest

theorem Quiet.snoc {ns : List Note} (h : Quiet ns) (hn : n.begins = false) : Quiet (ns ++ [n]) := by
  unfold Quiet
  rw [List.forall_mem_append, List.forall_mem_singleton]
  exact ⟨h, hn⟩

theorem Steady.snoc {ns : List Note} (h : Steady ns) (hn : n.selects = false) :
    Steady (ns ++ [n]) := by
  unfold Steady
  rw [List.forall_mem_append, List.forall_mem_singleton]
  exact ⟨h, hn⟩

/-- The selection that is in force after one more note. -/
theorem inForce_snoc (h : InForce (past ++ [n]) t) :
    (∃ made, n = .selected t made) ∨ (n.selects = false ∧ InForce past t) := by
  obtain ⟨before, made, since, hsplit, hsteady⟩ := h
  rcases List.eq_nil_or_concat since with rfl | ⟨since, m, rfl⟩
  · obtain ⟨-, hn⟩ := List.append_inj' hsplit rfl
    exact Or.inl ⟨made, (List.cons.inj hn).1⟩
  · rw [List.concat_eq_append, ← List.cons_append, ← List.append_assoc] at hsplit
    obtain ⟨hpast, hn⟩ := List.append_inj' hsplit rfl
    obtain ⟨rfl, -⟩ := List.cons.inj hn
    rw [List.concat_eq_append] at hsteady
    have hkeep : n.selects = false := hsteady n (by simp)
    refine Or.inr ⟨hkeep, before, made, since, hpast, ?_⟩
    intro m hm
    exact hsteady m (List.mem_append_left _ hm)

/-- A request that is due belongs to the selection in force. -/
theorem DueOn.inForce (h : DueOn policy past t due) : InForce past t := by
  cases h with
  | first before since split steady quiet => exact ⟨before, due, since, split, steady⟩
  | later before since after made due' begun time outcome split steady quiet delayed =>
    refine ⟨before, made, _, split, ?_⟩
    unfold Steady
    rw [List.forall_mem_append, List.forall_mem_cons, List.forall_mem_cons]
    exact ⟨steady.1, rfl, rfl, steady.2⟩

/-- What is handed back of an earlier selection is no reason for anything. -/
theorem DueOn.snoc (h : DueOn policy past t due) (hsel : n.selects = false)
    (hbeg : n.begins = false) : DueOn policy (past ++ [n]) t due := by
  cases h with
  | first before since split steady quiet =>
    exact .first before (since ++ [n]) (by simp [split]) (steady.snoc hsel) (quiet.snoc hbeg)
  | later before since after made due' begun time outcome split steady quiet delayed =>
    exact .later before since (after ++ [n]) made due' begun time outcome (by simp [split])
      ⟨steady.1, steady.2.snoc hsel⟩ (quiet.snoc hbeg) delayed

/-- A fetch for the selection in force begins. -/
theorem InForce.underway (h : InForce past t) (due time : Moment) :
    Underway (past ++ [.began t due time]) t := by
  obtain ⟨before, made, since, rfl, hsteady⟩ := h
  exact ⟨before, made, since, due, time, by simp, hsteady⟩

/-- The outcome of a fetch for the selection in force is the reason for the next one. -/
theorem Underway.dueOn (h : Underway past t) (policy : PollPolicy)
    (outcome : Except ClientError (Frame Float)) (time : Moment) :
    DueOn policy (past ++ [.ended t outcome time]) t (time.after (policy.delayAfter outcome)) := by
  obtain ⟨before, made, since, due, begun, rfl, hsteady⟩ := h
  exact .later before since [] made due begun time outcome (by simp) ⟨hsteady, nofun⟩ nofun rfl

/-- A new fetch begins when the ones before it have ended. -/
theorem Finished.fetching (h : Finished past) (t : Ticket) (due time : Moment) :
    Fetching (past ++ [.began t due time]) t :=
  ⟨past, due, time, [], rfl, h, nofun⟩

/-- A change of the selection ends no fetch. -/
theorem Fetching.snoc (h : Fetching past t) (hbeg : n.begins = false) :
    Fetching (past ++ [n]) t := by
  obtain ⟨before, due, time, since, rfl, hbefore, hquiet⟩ := h
  exact ⟨before, due, time, since ++ [n], by simp, hbefore, hquiet.snoc hbeg⟩

/-- Once its outcome is handed back, the last fetch has ended as well. -/
theorem Fetching.finished (h : Fetching past t) (outcome : Except ClientError (Frame Float))
    (time : Moment) : Finished (past ++ [.ended t outcome time]) := by
  obtain ⟨before, due, begun, since, rfl, hbefore, hquiet⟩ := h
  have hlast : Finished (.began t due begun :: (since ++ [.ended t outcome time])) :=
    ⟨⟨outcome, time, by simp⟩, hquiet.finished.append trivial⟩
  rw [List.append_assoc]
  exact hbefore.append hlast

end record

/-! ### Keeping the record -/

variable {σ : Type}

/-- What there is to note about a worker that looked at the schedule and became `w'`. -/
def beginning? (w w' : Worker σ) (now : Moment) : Option Note :=
  match w.phase, w.next, w'.phase with
  | .checking, some s, .fetching t => some (.began t s.due now)
  | _, _, _ => none

/-- What there is to note about an outcome that is handed back. -/
def ending? (w : Worker σ) (outcome : Except ClientError (Frame Float)) (now : Moment) :
    Option Note :=
  match w.phase with
  | .fetching t => some (.ended t outcome now)
  | _ => none

/-- What there is to note about an event. -/
def note? [Surface σ] (w : Worker σ) : Event → Option Note
  | .select c now =>
    match w.select c now with
    | .ok (ticket, _) => some (.selected ticket now)
    | .error _ => none
  | .deselect =>
    match w.deselect with
    | .ok _ => some .deselected
    | .error _ => none
  | .check now => w.beginning? (w.check now) now
  | .finish outcome now => w.ending? outcome now
  | _ => none

/-- What there is to note about an interleaving, in order. -/
def notes [Surface σ] (w : Worker σ) : List Event → List Note
  | [] => []
  | e :: es => (w.note? e).toList ++ (w.step e).notes es

section note?

variable [Surface σ]

theorem note?_select {w : Worker σ} (h : w.poisoned = false) (c : ChannelId) (now : Moment) :
    w.note? (.select c now) = some (.selected (w.poller.select c).1 now) := by
  simp [note?, Worker.select, locked, h]

theorem note?_deselect {w : Worker σ} (h : w.poisoned = false) :
    w.note? .deselect = some .deselected := by
  simp [note?, Worker.deselect, locked, h]

end note?

/-! ### The worker and its record -/

/-- Fetching panicked. -/
def Crashed (w : Worker σ) : Prop := w.join? = some (.error .panicked)

/-- The worker does what the record says. -/
structure Timely (policy : PollPolicy) (w : Worker σ) (past : List Note) : Prop where
  /-- The shared state is usable. -/
  usable : w.poisoned = false
  /-- The delays stay what they are. -/
  delays : w.poller.policy = policy
  /-- There is a reason for what is scheduled. -/
  scheduled : ∀ s, w.next = some s → DueOn policy past s.ticket s.due
  /-- The request of the selection in force is current. -/
  inForce : ∀ t, InForce past t → w.poller.isCurrent t = true
  /-- What is being fetched was given by the last selection or an earlier one. -/
  notAhead : ∀ t, w.phase = .fetching t → t.generation ≤ w.poller.generation
  /-- What is being fetched is what the last fetch that began is for. -/
  fetching : ∀ t, w.phase = .fetching t → Fetching past t
  /-- While a request that is current is being fetched, nothing has been scheduled or noted since. -/
  alone : ∀ t, w.phase = .fetching t → w.poller.isCurrent t = true →
    w.next = none ∧ Underway past t
  /-- While nothing is being fetched, all fetches have ended. -/
  finished : w.fetching? = none → ¬ w.Crashed → Finished past

namespace Timely

variable {policy : PollPolicy} {w w' : Worker σ} {past : List Note}

theorem spawn (p : Poller σ) : Timely p.policy (Worker.spawn p) [] where
  usable := rfl
  delays := rfl
  scheduled := fun s hs => by cases hs
  inForce := fun t ht => by
    obtain ⟨before, made, since, hsplit, -⟩ := ht
    cases before with
    | nil => cases hsplit
    | cons n before => cases hsplit
  notAhead := fun t ht => by cases ht
  fetching := fun t ht => by cases ht
  alone := fun t ht => by cases ht
  finished := fun _ _ => trivial

/-- A change that is not noted: the selection and the schedule stay, and a fetch goes on unless it
panics. -/
theorem unnoted (h : Timely policy w past) (husable : w'.poisoned = w.poisoned)
    (hpolicy : w'.poller.policy = w.poller.policy)
    (hselected : w'.poller.selected = w.poller.selected)
    (hgeneration : w'.poller.generation = w.poller.generation) (hnext : w'.next = w.next)
    (hfetching : ∀ t, w'.phase = .fetching t → w.phase = .fetching t)
    (hfinished : w'.fetching? = none → ¬ w'.Crashed → w.fetching? = none ∧ ¬ w.Crashed) :
    Timely policy w' past where
  usable := husable.trans h.usable
  delays := hpolicy.trans h.delays
  scheduled := fun s hs => h.scheduled s (hnext ▸ hs)
  inForce := fun t ht => by
    rw [Poller.isCurrent_congr hselected hgeneration]
    exact h.inForce t ht
  notAhead := fun t ht => by
    rw [hgeneration]
    exact h.notAhead t (hfetching t ht)
  fetching := fun t ht => h.fetching t (hfetching t ht)
  alone := fun t ht hcur => by
    rw [Poller.isCurrent_congr hselected hgeneration] at hcur
    rw [hnext]
    exact h.alone t (hfetching t ht) hcur
  finished := fun hidle hcrash => by
    obtain ⟨hidle, hcrash⟩ := hfinished hidle hcrash
    exact h.finished hidle hcrash

theorem notify (h : Timely policy w past) : Timely policy w.notify past := by
  refine h.unnoted (notify_poisoned w) ?_ ?_ ?_ (notify_next w)
    (fun t => (notify_fetching_iff w t).mp) ?_
  · rw [notify_poller]
  · rw [notify_poller]
  · rw [notify_poller]
  · intro hidle hcrash
    rw [notify_fetching?] at hidle
    rw [Crashed, notify_join?] at hcrash
    exact ⟨hidle, hcrash⟩

/-- A new selection is noted and scheduled at once, and outdates whatever is being fetched. -/
theorem select (h : Timely policy w past) (c : ChannelId) (now : Moment) :
    Timely policy { w with
      poller := (w.poller.select c).2
      next := some ⟨(w.poller.select c).1, now⟩ }
      (past ++ [.selected (w.poller.select c).1 now]) where
  usable := h.usable
  delays := h.delays
  scheduled := fun s hs => by
    rw [← Option.some.inj hs]
    exact .first past [] rfl nofun nofun
  inForce := fun t ht => by
    rcases inForce_snoc ht with ⟨made, hn⟩ | ⟨hn, -⟩
    · obtain ⟨rfl, -⟩ := Note.selected.inj hn
      exact Poller.isCurrent_select w.poller c
    · cases hn
  notAhead := fun t ht => Nat.le_succ_of_le (h.notAhead t ht)
  fetching := fun t ht => (h.fetching t ht).snoc rfl
  alone := fun t ht hcur => by
    rw [Poller.isCurrent_select_of_le (h.notAhead t ht)] at hcur
    cases hcur
  finished := fun hidle hcrash => (h.finished hidle hcrash).append trivial

/-- Without a selection nothing is scheduled, and nothing is in force. -/
theorem deselect (h : Timely policy w past) :
    Timely policy { w with poller := w.poller.deselect, next := none } (past ++ [.deselected]) where
  usable := h.usable
  delays := h.delays
  scheduled := fun s hs => by cases hs
  inForce := fun t ht => by
    rcases inForce_snoc ht with ⟨made, hn⟩ | ⟨hn, -⟩
    · cases hn
    · cases hn
  notAhead := fun t ht => Nat.le_succ_of_le (h.notAhead t ht)
  fetching := fun t ht => (h.fetching t ht).snoc rfl
  alone := fun t _ hcur => by
    rw [Poller.isCurrent_deselect] at hcur
    cases hcur
  finished := fun hidle hcrash => (h.finished hidle hcrash).append trivial

/-- A scheduled request goes out. -/
theorem begin (h : Timely policy w past) (hphase : w.phase = .checking) {s : Scheduled}
    (hnext : w.next = some s) (now : Moment) :
    Timely policy { w with
      poller := { w.poller with state := .requesting }
      next := none
      phase := .fetching s.ticket } (past ++ [.began s.ticket s.due now]) where
  usable := h.usable
  delays := h.delays
  scheduled := fun s hs => by cases hs
  inForce := fun t ht => by
    rcases inForce_snoc ht with ⟨made, hn⟩ | ⟨-, ht⟩
    · cases hn
    · exact h.inForce t ht
  notAhead := fun t ht => by
    cases ht
    have hcur := h.inForce s.ticket (h.scheduled s hnext).inForce
    exact Nat.le_of_eq (Poller.generation_of_isCurrent hcur)
  fetching := fun t ht => by
    cases ht
    have hidle : w.fetching? = none := by simp [fetching?, hphase]
    have hlive : ¬ w.Crashed := by simp [Crashed, join?, hphase]
    exact (h.finished hidle hlive).fetching s.ticket s.due now
  alone := fun t ht _ => by
    cases ht
    exact ⟨rfl, (h.scheduled s hnext).inForce.underway s.due now⟩
  finished := fun hidle => by cases hidle

theorem crash (h : Timely policy w past) : Timely policy w.crash past := by
  unfold Worker.crash
  split
  · exact h.unnoted rfl rfl rfl rfl rfl (fun t ht => by cases ht) fun _ hcrash => absurd rfl hcrash
  · exact h

theorem requestShutdown (h : Timely policy w past) : Timely policy w.requestShutdown past := by
  unfold Worker.requestShutdown
  split
  · exact h
  · exact h.unnoted rfl rfl rfl rfl rfl (fun t ht => ht) fun hidle hcrash => ⟨hidle, hcrash⟩

/-- A worker that stops looking at the schedule without beginning a fetch. -/
theorem of_phase (h : Timely policy w past) (hphase : w.phase = .checking) {phase : Phase}
    (hnew : ∀ t, phase ≠ .fetching t) : Timely policy { w with phase } past := by
  have hidle : w.fetching? = none := by simp [fetching?, hphase]
  have hlive : ¬ w.Crashed := by simp [Crashed, join?, hphase]
  exact h.unnoted rfl rfl rfl rfl rfl (fun t ht => absurd ht (hnew t)) fun _ _ => ⟨hidle, hlive⟩

/-- A worker that looks at the schedule begins a fetch or lets things be. -/
theorem check (h : Timely policy w past) (now : Moment) :
    Timely policy (w.check now) (past ++ (w.beginning? (w.check now) now).toList) := by
  have hchecked := w.checked now
  generalize w.check now = w' at hchecked
  have hunnoted (hnote : w.beginning? w' now = none) (hkept : Timely policy w' past) :
      Timely policy w' (past ++ (w.beginning? w' now).toList) := by
    rw [hnote, Option.toList_none, List.append_nil]
    exact hkept
  cases hchecked with
  | elsewhere hphase => exact hunnoted (by simp [beginning?, hphase]) h
  | exits hphase => exact hunnoted (by simp [beginning?]) (h.of_phase hphase nofun)
  | rests hphase => exact hunnoted (by simp [beginning?]) (h.of_phase hphase nofun)
  | waits hphase => exact hunnoted (by simp [beginning?]) (h.of_phase hphase nofun)
  | drops hphase hshutdown s hnext hstale =>
    rw [h.inForce s.ticket (h.scheduled s hnext).inForce] at hstale
    cases hstale
  | begins hphase hshutdown s hnext =>
    have hnote : w.beginning? { w with
        poller := { w.poller with state := .requesting }
        next := none
        phase := .fetching s.ticket } now = some (.began s.ticket s.due now) := by
      simp [beginning?, hphase, hnext]
    rw [hnote]
    exact h.begin hphase hnext now

variable [Surface σ]

/-- An outcome that counts is followed by the next request, due after the delay for that outcome;
what is scheduled while any other is handed back stays scheduled. -/
theorem finish (h : Timely policy w past) (outcome : Except ClientError (Frame Float))
    (now : Moment) :
    Timely policy (w.finish outcome now) (past ++ (w.ending? outcome now).toList) := by
  by_cases hphase : ∃ t, w.phase = .fetching t
  · obtain ⟨t, hphase⟩ := hphase
    have hnote : w.ending? outcome now = some (.ended t outcome now) := by simp [ending?, hphase]
    rw [hnote, Option.toList_some]
    obtain ⟨hselected, hgeneration⟩ := Poller.complete_keeps_selection w.poller t outcome
    have hinForce : ∀ t', InForce (past ++ [.ended t outcome now]) t' →
        w.poller.isCurrent t' = true := by
      intro t' ht'
      rcases inForce_snoc ht' with ⟨made, hn⟩ | ⟨-, ht'⟩
      · cases hn
      · exact h.inForce t' ht'
    have hended := (h.fetching t hphase).finished outcome now
    rcases hcur : w.poller.isCurrent t with _ | _
    · rw [finish_of_stale h.usable hphase hcur]
      exact {
        usable := h.usable
        delays := h.delays
        scheduled := fun s hs => (h.scheduled s hs).snoc rfl rfl
        inForce := hinForce
        notAhead := fun _ ht => by cases ht
        fetching := fun _ ht => by cases ht
        alone := fun _ ht => by cases ht
        finished := fun _ _ => hended }
    · obtain ⟨hnext, hunderway⟩ := h.alone t hphase hcur
      rw [finish_of_current h.usable hphase hcur, hnext, h.delays]
      exact {
        usable := h.usable
        delays := (Poller.policy_complete w.poller t outcome).trans h.delays
        scheduled := fun s hs => by
          rw [← Option.some.inj hs]
          exact hunderway.dueOn policy outcome now
        inForce := fun t' ht' => by
          rw [Poller.isCurrent_congr hselected hgeneration]
          exact hinForce t' ht'
        notAhead := fun _ ht => by cases ht
        fetching := fun _ ht => by cases ht
        alone := fun _ ht => by cases ht
        finished := fun _ _ => hended }
  · have hnote : w.ending? outcome now = none := by
      unfold ending?
      split
      · rename_i t ht
        exact absurd ⟨t, ht⟩ hphase
      · rfl
    rw [hnote, Option.toList_none, List.append_nil, finish_of_not_fetching (not_exists.mp hphase)]
    exact h

/-- Every event leaves the worker in accordance with the record. -/
theorem step (h : Timely policy w past) (e : Event) :
    Timely policy (w.step e) (past ++ (w.note? e).toList) := by
  have hnothing : Timely policy w (past ++ []) := by
    rw [List.append_nil]
    exact h
  have husable : ¬ (w.poisoned = true) := by simp [h.usable]
  cases e with
  | select c now =>
    rw [step_select, if_neg husable, note?_select h.usable]
    exact (h.select c now).notify
  | deselect =>
    rw [step_deselect, if_neg husable, note?_deselect h.usable]
    exact h.deselect.notify
  | subscribe =>
    rw [step_subscribe, if_neg husable]
    exact hnothing.unnoted rfl rfl rfl rfl rfl (fun t ht => ht)
      fun hidle hcrash => ⟨hidle, hcrash⟩
  | requestShutdown => exact hnothing.requestShutdown
  | notify => exact hnothing.notify
  | wake => exact hnothing.notify
  | check now => exact h.check now
  | finish outcome now => exact h.finish outcome now
  | crash => exact hnothing.crash

/-- Every interleaving leaves the worker in accordance with its record. -/
theorem run (h : Timely policy w past) (es : List Event) :
    Timely policy (w.run es) (past ++ w.notes es) := by
  induction es generalizing w past with
  | nil =>
    show Timely policy w (past ++ [])
    rw [List.append_nil]
    exact h
  | cons e es ih =>
    show Timely policy ((w.step e).run es) (past ++ ((w.note? e).toList ++ (w.step e).notes es))
    rw [← List.append_assoc]
    exact ih (h.step e)

end Timely

/-! ### The statement -/

variable [Surface σ]

/-- **Fetches begin when they are due, and never overlap.** Start a worker on any poller, let its
steps and those of the controls be interleaved in any way, with any moments, and look at any fetch
that begins in the course of this.  It begins where the worker looks at the schedule and takes from
it a request that is due, for the channel that is selected; and it is noted.  All fetches that were
noted before have ended.  The request is due when the selection in force was made if nothing has been
fetched for that selection, and otherwise the delay for the outcome of the last fetch after the
moment when that was handed back: the steady delay if it succeeded, and the fixed one if it
failed. -/
theorem fetches_begin_when_due (p : Poller σ) (before : List Event) (e : Event) :
    let w := (Worker.spawn p).run before
    let past := (Worker.spawn p).notes before
    w.BeginsFetch e →
      ∃ now s, e = .check now ∧ w.next = some s ∧ (w.step e).phase = .fetching s.ticket ∧
        w.note? e = some (.began s.ticket s.due now) ∧
        w.poller.selected = some s.ticket.channel ∧
        s.due ≤ now ∧ Finished past ∧ DueOn p.policy past s.ticket s.due := by
  intro w past hbegins
  have h : Timely p.policy w past := (Timely.spawn p).run before
  obtain ⟨now, s, rfl, hphase, -, hnext, hdue, hcur, hcheck⟩ := exists_check_of_beginsFetch hbegins
  have hstep : (w.step (.check now)).phase = .fetching s.ticket := by
    show (w.check now).phase = _
    rw [hcheck]
  have hnote : w.note? (.check now) = some (.began s.ticket s.due now) := by
    show w.beginning? (w.check now) now = _
    simp [beginning?, hphase, hnext, hcheck]
  have hfinished : Finished past := by
    apply h.finished
    · simp [fetching?, hphase]
    · simp [Crashed, join?, hphase]
  exact ⟨now, s, rfl, hnext, hstep, hnote, Poller.selected_of_isCurrent hcur,
    Nat.le_of_not_lt hdue, hfinished, h.scheduled s hnext⟩

/-- A channel is selected while another one is being fetched, and does not answer at first: the
outcome for the other channel is passed over, and the second fetch begins the fixed delay after the
first one was answered. -/
theorem second_fetch_of_silent_channel :
    let p : Poller Recorder := { policy := {}, display := { surface := {} } }
    let before : List Event :=
      [.select ⟨"lobby"⟩ ⟨0⟩, .check ⟨1⟩, .select ⟨"gate"⟩ ⟨2⟩, .finish (.error (.status 503)) ⟨3⟩,
        .check ⟨4⟩, .finish (.error (.status 503)) ⟨5⟩, .check ⟨6⟩, .wake]
    let w := (Worker.spawn p).run before
    let past := (Worker.spawn p).notes before
    w.BeginsFetch (.check ⟨10000000005⟩) ∧
      ∃ s, w.next = some s ∧ s.due ≤ ⟨10000000005⟩ ∧ Finished past ∧
        DueOn p.policy past s.ticket s.due := by
  intro p before w past
  have hbegins : w.BeginsFetch (.check ⟨10000000005⟩) := ⟨by decide, by decide⟩
  obtain ⟨now, s, heq, hnext, -, -, -, hdue, hfinished, hreason⟩ :=
    fetches_begin_when_due p before (.check ⟨10000000005⟩) hbegins
  cases heq
  exact ⟨hbegins, s, hnext, hdue, hfinished, hreason⟩

end Lookout.Worker
