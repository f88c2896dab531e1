import Lookout.Proofs.Config.Layers
import Lookout.Proofs.Poll.Timetable
/-!
# Pauses between fetches

After each fetch the worker is to leave the channel alone for a while.  How long is a matter of the
configuration: after a failure the fixed delay, and after a success a second over the poll rate, in
whole microseconds and rounded down.  The fixed delay cannot be configured to be nothing, but the
rate can be so high that nothing is left of the second.

* **There is a pause between any two fetches exactly up to a million polls a second**
  (`pauses_iff_rate_le`), whatever configuration is loaded and however the worker is interleaved
  with the controls (`Worker.Pauses`).  Above that a channel that answers can be fetched any number
  of times at one and the same moment (`Worker.burst`).
* A rate of a million and one is accepted, and polls without a pause: `no_pause_above_a_million`.

That the second of two fetches has a reason to be due when it is (`Worker.DueOn`) is known of every
run; here the reason is located in the record, right behind the first of the two (`later_of_dueOn`).
-/

namespace Lookout

/-- Up to a million polls a second something is left of the delay after a success, and above that
nothing is. -/
theorem PollPolicy.successDelay_pos_iff (p : PollPolicy) :
    0 < p.successDelay.nanos ↔ p.rate ≤ 1000000 := by
  show 0 < 1000000 / max p.rate 1 * 1000 ↔ _
  have hquotient : 0 < 1000000 / max p.rate 1 ↔ max p.rate 1 ≤ 1000000 := by
    rw [Nat.div_pos_iff]
    omega
  omega

/-- Above a million polls a second there is no delay after a success. -/
theorem PollPolicy.successDelay_of_fast {p : PollPolicy} (h : 1000000 < p.rate) :
    p.successDelay = ⟨0⟩ := by
  have hpositive := p.successDelay_pos_iff
  have hzero : p.successDelay.nanos = 0 := by omega
  exact congrArg Span.mk hzero

namespace Worker

variable {σ : Type}

/-! ### Two fetches for one selection -/

/-- Between a fetch and the next one there is a pause, if they are for the same selection: the
outcome of the first was handed back before the second was due, and that is no later than when it
began. -/
def Pauses (ns : List Note) : Prop :=
  ∀ before t due begun between t' due' begun' after,
    ns = before ++ .began t due begun :: (between ++ .began t' due' begun' :: after) →
    Steady between → Quiet between →
      ∃ outcome time, .ended t outcome time ∈ between ∧ time < due' ∧ due' ≤ begun'

/-- The fetch that began last is the last one of a record however it is taken apart. -/
theorem last_fetch_unique {before before' between between' : List Note} {n n' : Note}
    (h : before ++ n :: between = before' ++ n' :: between') (hn : n.begins = true)
    (hn' : n'.begins = true) (hquiet : Quiet between) (hquiet' : Quiet between') :
    n = n' ∧ between = between' := by
  rcases List.append_eq_append_iff.mp h with ⟨more, -, hrest⟩ | ⟨more, -, hrest⟩
  · cases more with
    | nil => exact List.cons.inj hrest
    | cons m more =>
      -- the second fetch would be among what was noted since the first
      have hmem : n' ∈ between := by
        rw [(List.cons.inj hrest).2]
        simp
      rw [hquiet n' hmem] at hn'
      cases hn'
  · cases more with
    | nil =>
      obtain ⟨rfl, rfl⟩ := List.cons.inj hrest
      exact ⟨rfl, rfl⟩
    | cons m more =>
      have hmem : n ∈ between' := by
        rw [(List.cons.inj hrest).2]
        simp
      rw [hquiet' n hmem] at hn
      cases hn

/-- After a fetch, a request for the same selection is due for no other reason than the outcome of
that fetch. -/
theorem later_of_dueOn {policy : PollPolicy} {before between : List Note} {t t' : Ticket}
    {due begun due' : Moment}
    (h : DueOn policy (before ++ .began t due begun :: between) t' due')
    (hsteady : Steady between) (hquiet : Quiet between) :
    ∃ outcome time, .ended t outcome time ∈ between ∧
      due' = time.after (policy.delayAfter outcome) := by
  cases h with
  | first before' since split steady quiet =>
    -- the selection was made before the fetch began, so there was a fetch since then
    rcases List.append_eq_append_iff.mp split with ⟨more, -, hrest⟩ | ⟨more, -, hrest⟩
    · cases more with
      | nil => cases (List.cons.inj hrest).1
      | cons m more =>
        have hmem : Note.selected t' due' ∈ between := by
          rw [(List.cons.inj hrest).2]
          simp
        cases hsteady _ hmem
    · cases more with
      | nil => cases (List.cons.inj hrest).1
      | cons m more =>
        have hmem : Note.began t due begun ∈ since := by
          rw [(List.cons.inj hrest).2]
          simp
        cases quiet _ hmem
  | later before' since after' made due₀ begun₀ time outcome split steady quiet delayed =>
    have hsplit : before ++ .began t due begun :: between =
        (before' ++ .selected t' made :: since) ++
          .began t' due₀ begun₀ :: (.ended t' outcome time :: after') := by
      rw [split]
      simp
    have hquiet' : Quiet (.ended t' outcome time :: after') := by
      unfold Quiet
      rw [List.forall_mem_cons]
      exact ⟨rfl, quiet⟩
    obtain ⟨hfetch, rfl⟩ := last_fetch_unique hsplit rfl rfl hquiet hquiet'
    obtain ⟨rfl, -, -⟩ := Note.began.inj hfetch
    exact ⟨outcome, time, List.mem_cons_self, delayed⟩

/-- A delay that is not nothing is over at a later moment. -/
theorem lt_after {time : Moment} {d : Span} (h : 0 < d.nanos) : time < time.after d :=
  Nat.lt_add_of_pos_right h

section runs

variable [Surface σ]

/-- What was noted was noted about one of the events, after those before it. -/
theorem exists_event_of_note {w : Worker σ} {es : List Event} {before after : List Note} {n : Note}
    (h : w.notes es = before ++ n :: after) :
    ∃ earlier e later, es = earlier ++ e :: later ∧ w.notes earlier = before ∧
      (w.run earlier).note? e = some n := by
  induction es generalizing w before with
  | nil =>
    exact absurd h.symm (List.append_ne_nil_of_right_ne_nil before (List.cons_ne_nil n after))
  | cons e es ih =>
    change (w.note? e).toList ++ (w.step e).notes es = before ++ n :: after at h
    cases hnote : w.note? e with
    | none =>
      rw [hnote, Option.toList_none, List.nil_append] at h
      obtain ⟨earlier, e', later, rfl, hbefore, hn⟩ := ih h
      refine ⟨e :: earlier, e', later, rfl, ?_, hn⟩
      show (w.note? e).toList ++ (w.step e).notes earlier = before
      rw [hnote, hbefore, Option.toList_none, List.nil_append]
    | some m =>
      rw [hnote, Option.toList_some, List.singleton_append] at h
      cases before with
      | nil => exact ⟨[], e, es, rfl, rfl, hnote.trans (congrArg some (List.cons.inj h).1)⟩
      | cons m' before =>
        obtain ⟨rfl, hrest⟩ := List.cons.inj h
        obtain ⟨earlier, e', later, rfl, hbefore, hn⟩ := ih hrest
        refine ⟨e :: earlier, e', later, rfl, ?_, hn⟩
        show (w.note? e).toList ++ (w.step e).notes earlier = m :: before
        rw [hnote, hbefore, Option.toList_some, List.singleton_append]

/-- Where a fetch is noted that begins, it was scheduled, and it is not early. -/
theorem scheduled_of_note {w : Worker σ} {e : Event} {t : Ticket} {due begun : Moment}
    (h : w.note? e = some (.began t due begun)) :
    ∃ s, w.next = some s ∧ s.due = due ∧ due ≤ begun := by
  have hcheck : e = .check begun ∧
      w.beginning? (w.check begun) begun = some (.began t due begun) := by
    cases e with
    | check now =>
      change w.beginning? (w.check now) now = _ at h
      have hnow : now = begun := by
        unfold beginning? at h
        split at h
        · exact (Note.began.inj (Option.some.inj h)).2.2
        · cases h
      exact ⟨congrArg _ hnow, hnow ▸ h⟩
    | select c now =>
      simp only [note?] at h
      split at h
      · cases h
      · cases h
    | deselect =>
      simp only [note?] at h
      split at h
      · cases h
      · cases h
    | finish outcome now =>
      simp only [note?, ending?] at h
      split at h
      · cases h
      · cases h
    | subscribe | requestShutdown | notify | wake | crash => cases h
  obtain ⟨rfl, hnote⟩ := hcheck
  have hchecked := w.checked begun
  generalize w.check begun = w' at hchecked hnote
  unfold beginning? at hnote
  cases hchecked with
  | begins hphase hshutdown s hnext hdue hcur =>
    simp only [hphase, hnext, Option.some.injEq, Note.began.injEq] at hnote
    obtain ⟨-, rfl, -⟩ := hnote
    exact ⟨s, hnext, rfl, Nat.le_of_not_lt hdue⟩
  | elsewhere hphase => simp [hphase] at hnote
  | exits | rests | waits | drops => simp at hnote

/-- **There is a pause after every fetch** if there is a delay after every outcome. -/
theorem pauses_of_delays (p : Poller σ)
    (hdelays : ∀ outcome, 0 < (p.policy.delayAfter outcome).nanos) (es : List Event) :
    Pauses ((Worker.spawn p).notes es) := by
  intro before t due begun between t' due' begun' after hsplit hsteady hquiet
  rw [← List.cons_append, ← List.append_assoc] at hsplit
  obtain ⟨earlier, e, later, -, hpast, hnote⟩ := exists_event_of_note hsplit
  have htimely := (Timely.spawn p).run earlier
  rw [List.nil_append, hpast] at htimely
  obtain ⟨s, hnext, rfl, hlate⟩ := scheduled_of_note hnote
  obtain ⟨outcome, time, hended, hdue⟩ :=
    later_of_dueOn (htimely.scheduled s hnext) hsteady hquiet
  refine ⟨outcome, time, hended, ?_, hlate⟩
  rw [hdue]
  exact lt_after (hdelays outcome)

/-! ### Fetches without a pause -/

/-- A channel is selected and fetched at once; then so many fetches succeed, each at the moment when
it began, and the worker looks at the schedule right away. -/
def burst (c : ChannelId) (frame : Frame Float) (now : Moment) (n : Nat) : List Event :=
  .select c now :: .check now ::
    (List.replicate n [.finish (.ok frame) now, .check now]).flatten

/-- The worker is fetching for the selection in force, and nothing keeps it from going on. -/
structure Busy (w : Worker σ) (t : Ticket) : Prop where
  /-- It is fetching. -/
  phase : w.phase = .fetching t
  /-- The request is current. -/
  current : w.poller.isCurrent t = true
  /-- Nothing is scheduled. -/
  next : w.next = none
  /-- It is not to exit. -/
  shutdown : w.shutdown = false
  /-- The shared state is usable. -/
  usable : w.poisoned = false
  /-- No time is left alone after a success. -/
  hasty : w.poller.policy.successDelay = ⟨0⟩

omit [Surface σ] in
/-- A worker that looks at the schedule at the very moment when a current request is due begins
it. -/
theorem check_of_due {w : Worker σ} {t : Ticket} {now : Moment} (hphase : w.phase = .checking)
    (husable : w.poisoned = false) (hshutdown : w.shutdown = false)
    (hnext : w.next = some ⟨t, now⟩) (hcur : w.poller.isCurrent t = true) :
    w.check now = { w with
      poller := { w.poller with state := .requesting }
      next := none
      phase := .fetching t } := by
  have hdue : ¬now < now := Nat.lt_irrefl _
  unfold check
  simp only [hphase, husable, hshutdown, hnext, Bool.or_self, Bool.false_eq_true, if_false,
    if_neg hdue, Poller.begin_of_current hcur, if_true]

/-- A fetch succeeds, and the next one begins at the same moment. -/
theorem Busy.again {w : Worker σ} {t : Ticket} (h : Busy w t) (frame : Frame Float) (now : Moment) :
    Busy ((w.step (.finish (.ok frame) now)).step (.check now)) t ∧
      w.notes [.finish (.ok frame) now, .check now] =
        [.ended t (.ok frame) now, .began t now now] := by
  have hfinish := finish_of_current h.usable h.phase h.current (.ok frame) now
  have hdelay : now.after (w.poller.policy.delayAfter (.ok frame)) = now := by
    show now.after w.poller.policy.successDelay = now
    rw [h.hasty]
    rfl
  rw [h.next, hdelay] at hfinish
  obtain ⟨hselected, hgeneration⟩ := Poller.complete_keeps_selection w.poller t (.ok frame)
  have hcur : (w.poller.complete t (.ok frame)).2.isCurrent t = true := by
    rw [Poller.isCurrent_congr hselected hgeneration]
    exact h.current
  change w.finish (.ok frame) now = { w with
    poller := (w.poller.complete t (.ok frame)).2
    next := some ⟨t, now⟩
    phase := .checking } at hfinish
  have hcheck := check_of_due (w := { w with
    poller := (w.poller.complete t (.ok frame)).2
    next := some ⟨t, now⟩
    phase := .checking }) rfl h.usable h.shutdown rfl hcur
  constructor
  · show Busy ((w.finish (.ok frame) now).check now) t
    rw [hfinish, hcheck]
    exact {
      phase := rfl
      current := hcur
      next := rfl
      shutdown := h.shutdown
      usable := h.usable
      hasty := (congrArg PollPolicy.successDelay
        (Poller.policy_complete w.poller t (.ok frame))).trans h.hasty }
  · show (w.ending? (.ok frame) now).toList ++
      (((w.finish (.ok frame) now).beginning? ((w.finish (.ok frame) now).check now) now).toList ++
        []) = _
    rw [hfinish, hcheck]
    simp [ending?, beginning?, h.phase]

/-- What is noted about two runs of events. -/
theorem notes_append (w : Worker σ) (es more : List Event) :
    w.notes (es ++ more) = w.notes es ++ (w.run es).notes more := by
  induction es generalizing w with
  | nil => rfl
  | cons e es ih =>
    show (w.note? e).toList ++ (w.step e).notes (es ++ more) = _
    rw [ih, ← List.append_assoc]
    rfl

/-- Any number of fetches succeed one after the other, all at one moment. -/
theorem Busy.notes_replicate {w : Worker σ} {t : Ticket} (h : Busy w t) (frame : Frame Float)
    (now : Moment) (n : Nat) :
    w.notes (List.replicate n [Event.finish (.ok frame) now, .check now]).flatten =
      (List.replicate n [Note.ended t (.ok frame) now, .began t now now]).flatten := by
  induction n generalizing w with
  | zero => rfl
  | succ n ih =>
    obtain ⟨hbusy, hnotes⟩ := h.again frame now
    rw [List.replicate_succ, List.flatten_cons, notes_append, hnotes, List.replicate_succ,
      List.flatten_cons]
    exact congrArg _ (ih hbusy)

/-- **Without a delay there is a burst**: any number of fetches for one selection, each due and
begun at the moment when the one before it succeeded. -/
theorem notes_burst {p : Poller σ} (hasty : p.policy.successDelay = ⟨0⟩) (c : ChannelId)
    (frame : Frame Float) (now : Moment) (n : Nat) :
    let t := (p.select c).1
    (Worker.spawn p).notes (burst c frame now n) =
      .selected t now :: .began t now now ::
        (List.replicate n [Note.ended t (.ok frame) now, .began t now now]).flatten := by
  intro t
  let selected : Worker σ := { Worker.spawn p with
    poller := (p.select c).2
    next := some ⟨t, now⟩ }
  have hcur : selected.poller.isCurrent t = true := Poller.isCurrent_select p c
  have hcheck : selected.check now = _ := check_of_due rfl rfl rfl rfl hcur
  have hbusy : Busy (selected.check now) t := by
    rw [hcheck]
    exact ⟨rfl, hcur, rfl, rfl, rfl, hasty⟩
  have hbegun : selected.beginning? (selected.check now) now = some (.began t now now) := by
    rw [hcheck]
    rfl
  show .selected t now :: ((selected.beginning? (selected.check now) now).toList ++
    (selected.check now).notes _) = _
  rw [hbegun, hbusy.notes_replicate frame now n]
  rfl

/-- In a burst there is no pause. -/
theorem not_pauses_burst {p : Poller σ} (hasty : p.policy.successDelay = ⟨0⟩) (c : ChannelId)
    (frame : Frame Float) (now : Moment) :
    ¬Pauses ((Worker.spawn p).notes (burst c frame now 1)) := by
  intro hpauses
  rw [notes_burst hasty] at hpauses
  obtain ⟨outcome, time, hended, hlt, -⟩ :=
    hpauses [.selected (p.select c).1 now] _ _ _ [.ended (p.select c).1 (.ok frame) now] _ _ _ []
      rfl (by simp [Steady, Note.selects]) (by simp [Quiet, Note.begins])
  obtain ⟨-, -, rfl⟩ := Note.ended.inj (List.mem_singleton.mp hended)
  exact Nat.lt_irrefl _ hlt

end runs

end Worker

/-! ### What a configuration allows -/

namespace Config

/-- **There is a pause between any two fetches exactly up to a million polls a second.**  Whatever
configuration is loaded:

* the delay after a success is more than nothing if and only if the poll rate is at most a million;
* if and only if it is, every run of every worker with the delays of that configuration pauses
  between any two successive fetches for one selection, whatever their outcomes;
* if it is not, then any worker with those delays, told at any moment to fetch a channel that
  answers, fetches it any number of times without that moment passing. -/
theorem pauses_iff_rate_le {env : Environment} {files : String → Except FileFault ByteArray}
    {config : Config} (h : load env files = .ok config) :
    let policy := config.dashboard.policy
    (0 < policy.successDelay.nanos ↔ policy.rate ≤ 1000000) ∧
    ((∀ (σ : Type) [Surface σ] (p : Poller σ) (es : List Worker.Event), p.policy = policy →
        Worker.Pauses ((Worker.spawn p).notes es)) ↔ policy.rate ≤ 1000000) ∧
    (1000000 < policy.rate →
      ∀ (σ : Type) [Surface σ] (p : Poller σ), p.policy = policy →
        ∀ (c : ChannelId) (frame : Frame Float) (now : Moment) (n : Nat),
          let t := (p.select c).1
          (Worker.spawn p).notes (Worker.burst c frame now n) =
            .selected t now :: .began t now now :: (List.replicate n
              [Worker.Note.ended t (.ok frame) now, .began t now now]).flatten) := by
  intro policy
  obtain ⟨-, -, -, hvalid⟩ := load_eq_ok_iff.mp h
  have hpositive := policy.successDelay_pos_iff
  refine ⟨hpositive, ?_, ?_⟩
  · constructor
    · intro hall
      refine Decidable.byContradiction fun hfast => ?_
      let p : Poller Recorder := { policy, display := { surface := {} } }
      let frame : Frame Float := ⟨.fill 1 1 ⟨0, 0, 0⟩, 0.0, ⟨1, 0.0, 0.0, 1, 1, "lobby"⟩⟩
      have hasty : p.policy.successDelay = ⟨0⟩ :=
        PollPolicy.successDelay_of_fast (Nat.lt_of_not_le hfast)
      exact Worker.not_pauses_burst hasty ⟨"lobby"⟩ frame ⟨0⟩ (hall Recorder p _ rfl)
    · rintro hslow σ _ p es hp
      refine Worker.pauses_of_delays p (fun outcome => ?_) es
      rw [hp]
      cases outcome with
      | ok frame => exact hpositive.mpr hslow
      | error e =>
        -- the fixed delay is checked when the configuration is loaded
        exact Nat.pos_of_ne_zero fun hzero => hvalid.backoff (congrArg Span.mk hzero)
  · rintro hfast σ _ p hp c frame now n
    exact Worker.notes_burst (hp ▸ PollPolicy.successDelay_of_fast hfast) c frame now n

/-- A configuration with seven polls a second. -/
theorem pauses_at_seven :
    let files := fun _ => .ok pollingFile.toUTF8
    load (pollingAt " +7 ") files = .ok (pollingConfig 7) ∧
      0 < (pollingConfig 7).dashboard.policy.successDelay.nanos ∧
      ∀ (p : Poller Recorder) (es : List Worker.Event),
        p.policy = (pollingConfig 7).dashboard.policy →
        Worker.Pauses ((Worker.spawn p).notes es) := by
  intro files
  have hload : load (pollingAt " +7 ") files = .ok (pollingConfig 7) :=
    Results.eq_ok_of_toOption (by decide +kernel)
  obtain ⟨hpositive, hpauses, -⟩ := pauses_iff_rate_le hload
  have hslow : (pollingConfig 7).dashboard.policy.rate ≤ 1000000 := by decide
  exact ⟨hload, hpositive.mpr hslow, hpauses.mpr hslow Recorder⟩

/-- **A million and one polls a second are accepted, and polled without a pause**: the delay after a
success is nothing, and the second fetch begins at the moment when the first one succeeded. -/
theorem no_pause_above_a_million :
    let files := fun _ => .ok pollingFile.toUTF8
    load (pollingAt "1000001") files = .ok (pollingConfig 1000001) ∧
      (pollingConfig 1000001).dashboard.policy.successDelay = ⟨0⟩ ∧
      ∃ (p : Poller Recorder) (es : List Worker.Event),
        p.policy = (pollingConfig 1000001).dashboard.policy ∧
        ¬Worker.Pauses ((Worker.spawn p).notes es) := by
  intro files
  let policy := (pollingConfig 1000001).dashboard.policy
  let p : Poller Recorder := { policy, display := { surface := {} } }
  let frame : Frame Float := ⟨.fill 1 1 ⟨0, 0, 0⟩, 0.0, ⟨1, 0.0, 0.0, 1, 1, "a/1"⟩⟩
  have hfast : 1000000 < policy.rate := by decide
  have hnothing : policy.successDelay = ⟨0⟩ := PollPolicy.successDelay_of_fast hfast
  have hasty : p.policy.successDelay = ⟨0⟩ := hnothing
  exact ⟨Results.eq_ok_of_toOption (by decide +kernel), hnothing, p, _, rfl,
    Worker.not_pauses_burst hasty ⟨"a/1"⟩ frame ⟨0⟩⟩

end Config

end Lookout
