import Lookout.Poll.Poller
/-!
# Requests that are out of date

A run of a poller is a list of operations (`Poller.Op`), with requests begun and completed in any
order, any number of times, and for tickets that no selection ever gave.  `Poller.perform` carries
out one operation, `Poller.after` is the poller after a list of them, and `Poller.transcript` says
for each what was answered and whether it was *heeded*: beginning or completing a request is heeded
only while its ticket is current, and everything else always is.

* **What is not heeded leaves no trace** (`unheeded_requests_leave_no_trace`): the operations that
  were heeded, carried out alone, are answered as they were among the others and leave the same
  poller behind, which holds the selection, the health of all channels with what subscribers were
  told, and the display with what was drawn, its readouts and its clock.  What was not heeded was
  refused.
* **A ticket is current until the selection changes** (part of the same statement): a ticket that a
  selection gave is current later exactly if nothing was selected and nothing deselected since then,
  not even the same channel again.

The second part rests on the count of selections: every change of the selection adds one to the
number in force (`generation_after`), so no number comes back.
-/

namespace Lookout

/-- The delay after a request with the given outcome. -/
def PollPolicy.delayAfter (p : PollPolicy) : Except ClientError (Frame Float) → Span
  | .ok _ => p.successDelay
  | .error _ => p.failureDelay

namespace Poller

/-- What can be asked of a poller. -/
inductive Op where
  /-- Select a channel. -/
  | select (c : ChannelId)
  /-- Select nothing. -/
  | deselect
  /-- A request is about to go out. -/
  | begin (t : Ticket)
  /-- The outcome of a request has come back. -/
  | complete (t : Ticket) (outcome : Except ClientError (Frame Float))
  /-- Become aware of a channel. -/
  | register (c : ChannelId)
  /-- Be told about changes of health. -/
  | subscribe

/-- What an operation gives back. -/
inductive Answer where
  /-- Nothing. -/
  | done
  /-- The first request of a selection. -/
  | ticket (t : Ticket)
  /-- Whether the request should go out. -/
  | goes (yes : Bool)
  /-- What became of an outcome. -/
  | completion (c : Completion)
  /-- The number of a subscriber. -/
  | subscriber (id : Nat)
  deriving DecidableEq, Repr

namespace Op

/-- The ticket of an operation on a request. -/
def ticket? : Op → Option Ticket
  | .begin t => some t
  | .complete t _ => some t
  | _ => none

/-- The operation changes the selection. -/
def selects : Op → Bool
  | .select _ => true
  | .deselect => true
  | _ => false

/-- What an operation on a request is answered that is not heeded. -/
def refusal : Op → Answer
  | .begin _ => .goes false
  | .complete _ _ => .completion .stale
  | _ => .done

end Op

variable {σ : Type}

/-- An operation is heeded unless it is about a request that is out of date. -/
def heeds (p : Poller σ) (op : Op) : Bool :=
  match op.ticket? with
  | some t => p.isCurrent t
  | none => true

/-! ### What is current -/

/-- The current ticket is the one that would be given now. -/
theorem isCurrent_iff (p : Poller σ) (t : Ticket) :
    p.isCurrent t = true ↔ p.currentTicket = some t := by
  obtain ⟨c, n⟩ := t
  unfold isCurrent currentTicket
  cases p.selected with
  | none => simp
  | some d =>
    simp only [Bool.and_eq_true, beq_iff_eq, Option.some.injEq, Option.map_some, Ticket.mk.injEq]
    constructor
    · rintro ⟨rfl, rfl⟩
      exact ⟨rfl, rfl⟩
    · rintro ⟨rfl, rfl⟩
      exact ⟨rfl, rfl⟩

/-- Currency of a ticket depends on the selection and its number alone. -/
theorem isCurrent_congr {p q : Poller σ} (hsel : q.selected = p.selected)
    (hgen : q.generation = p.generation) (t : Ticket) : q.isCurrent t = p.isCurrent t := by
  unfold isCurrent
  rw [hsel, hgen]

/-- The ticket of a selection is current. -/
theorem isCurrent_select (p : Poller σ) (c : ChannelId) :
    (p.select c).2.isCurrent (p.select c).1 = true := by
  simp [select, isCurrent]

/-- A ticket that is current has the number in force. -/
theorem generation_of_isCurrent {p : Poller σ} {t : Ticket} (h : p.isCurrent t = true) :
    t.generation = p.generation := by
  simp only [isCurrent, Bool.and_eq_true, beq_iff_eq] at h
  exact h.1

/-- A ticket that is current is for the channel that is selected. -/
theorem selected_of_isCurrent {p : Poller σ} {t : Ticket} (h : p.isCurrent t = true) :
    p.selected = some t.channel := by
  simp only [isCurrent, Bool.and_eq_true, beq_iff_eq] at h
  exact h.2

/-- A ticket with another number than the one in force is not current. -/
theorem isCurrent_eq_false_of_generation {p : Poller σ} {t : Ticket}
    (h : t.generation ≠ p.generation) : p.isCurrent t = false := by
  unfold isCurrent
  rw [Bool.and_eq_false_iff]
  left
  exact beq_false_of_ne h

/-- A new selection outdates the requests of all earlier ones. -/
theorem isCurrent_select_of_le {p : Poller σ} {t : Ticket} (h : t.generation ≤ p.generation)
    (c : ChannelId) : (p.select c).2.isCurrent t = false := by
  apply isCurrent_eq_false_of_generation
  show t.generation ≠ p.generation + 1
  omega

/-- Without a selection no request is current. -/
theorem isCurrent_deselect (p : Poller σ) (t : Ticket) : p.deselect.isCurrent t = false := by
  simp [isCurrent, deselect]

/-! ### One operation -/

/-- Beginning a request leaves the selection alone. -/
theorem begin_keeps_selection (p : Poller σ) (t : Ticket) :
    (p.begin t).2.selected = p.selected ∧ (p.begin t).2.generation = p.generation := by
  unfold begin
  split
  · exact ⟨rfl, rfl⟩
  · exact ⟨rfl, rfl⟩

/-- A request that is out of date does not go out. -/
theorem begin_of_stale {p : Poller σ} {t : Ticket} (h : p.isCurrent t = false) :
    p.begin t = (false, p) := by
  unfold begin
  rw [h]
  rfl

/-- A request that is current goes out. -/
theorem begin_of_current {p : Poller σ} {t : Ticket} (h : p.isCurrent t = true) :
    p.begin t = (true, { p with state := .requesting }) := by
  unfold begin
  rw [h]
  rfl

variable [Surface σ]

/-- The outcome of a request that is out of date is dropped. -/
theorem complete_of_stale {p : Poller σ} {t : Ticket} (h : p.isCurrent t = false)
    (outcome : Except ClientError (Frame Float)) : p.complete t outcome = (.stale, p) := by
  unfold complete
  rw [h]
  rfl

/-- The outcome of a request that is current is applied, and decides on the delay. -/
theorem complete_of_current {p : Poller σ} {t : Ticket} (h : p.isCurrent t = true)
    (outcome : Except ClientError (Frame Float)) :
    ∃ state changed,
      (p.complete t outcome).1 = .applied state (p.policy.delayAfter outcome) changed := by
  unfold complete
  rw [h]
  cases outcome with
  | ok frame => exact ⟨_, _, rfl⟩
  | error e => exact ⟨_, _, rfl⟩

/-- The delays stay what they are. -/
theorem policy_complete (p : Poller σ) (t : Ticket) (outcome : Except ClientError (Frame Float)) :
    (p.complete t outcome).2.policy = p.policy := by
  unfold complete
  split
  · cases outcome with
    | ok frame => rfl
    | error e => rfl
  · rfl

/-- Carry out an operation. -/
def perform (p : Poller σ) : Op → Answer × Poller σ
  | .select c =>
    let (ticket, p) := p.select c
    (.ticket ticket, p)
  | .deselect => (.done, p.deselect)
  | .begin t =>
    let (goes, p) := p.begin t
    (.goes goes, p)
  | .complete t outcome =>
    let (completion, p) := p.complete t outcome
    (.completion completion, p)
  | .register c => (.done, p.register c)
  | .subscribe =>
    let (id, health) := p.health.subscribe
    (.subscriber id, { p with health })

/-- An operation that is not heeded is refused, and the poller stays as it was. -/
theorem perform_of_not_heeds {p : Poller σ} {op : Op} (h : p.heeds op = false) :
    p.perform op = (op.refusal, p) := by
  cases op with
  | begin t =>
    show (Answer.goes (p.begin t).1, (p.begin t).2) = _
    rw [begin_of_stale h]
    rfl
  | complete t outcome =>
    show (Answer.completion (p.complete t outcome).1, (p.complete t outcome).2) = _
    rw [complete_of_stale h]
    rfl
  | select => cases h
  | deselect => cases h
  | register => cases h
  | subscribe => cases h

/-- Completing a request leaves the selection alone. -/
theorem complete_keeps_selection (p : Poller σ) (t : Ticket)
    (outcome : Except ClientError (Frame Float)) :
    (p.complete t outcome).2.selected = p.selected ∧
      (p.complete t outcome).2.generation = p.generation := by
  unfold complete
  split
  · cases outcome with
    | ok frame => exact ⟨rfl, rfl⟩
    | error e => exact ⟨rfl, rfl⟩
  · exact ⟨rfl, rfl⟩

/-- Only selecting and deselecting touch the selection. -/
theorem selected_perform {p : Poller σ} {op : Op} (h : op.selects = false) :
    (p.perform op).2.selected = p.selected := by
  cases op with
  | select => cases h
  | deselect => cases h
  | begin t => exact (begin_keeps_selection p t).1
  | complete t outcome => exact (complete_keeps_selection p t outcome).1
  | register => rfl
  | subscribe => rfl

/-- Every change of the selection has a number of its own, and nothing else changes the number. -/
theorem generation_perform (p : Poller σ) (op : Op) :
    (p.perform op).2.generation = p.generation + if op.selects then 1 else 0 := by
  cases op with
  | select => rfl
  | deselect => rfl
  | begin t => exact (begin_keeps_selection p t).2
  | complete t outcome => exact (complete_keeps_selection p t outcome).2
  | register => rfl
  | subscribe => rfl

/-! ### Runs -/

/-- The poller after some operations. -/
def after (p : Poller σ) : List Op → Poller σ
  | [] => p
  | op :: ops => (p.perform op).2.after ops

/-- What happened with an operation. -/
structure Entry where
  /-- The operation. -/
  op : Op
  /-- It was heeded. -/
  heeded : Bool
  /-- What it gave back. -/
  answer : Answer

/-- What happens with some operations, in their order. -/
def transcript (p : Poller σ) : List Op → List Entry
  | [] => []
  | op :: ops => ⟨op, p.heeds op, (p.perform op).1⟩ :: (p.perform op).2.transcript ops

/-- The operations that are heeded among some. -/
def heededAmong (p : Poller σ) (ops : List Op) : List Op :=
  ((p.transcript ops).filter (·.heeded)).map (·.op)

theorem after_append (p : Poller σ) (first rest : List Op) :
    p.after (first ++ rest) = (p.after first).after rest := by
  induction first generalizing p with
  | nil => rfl
  | cons op first ih => exact ih (p.perform op).2

theorem transcript_append (p : Poller σ) (first rest : List Op) :
    p.transcript (first ++ rest) = p.transcript first ++ (p.after first).transcript rest := by
  induction first generalizing p with
  | nil => rfl
  | cons op first ih => exact congrArg (_ :: ·) (ih (p.perform op).2)

theorem transcript_cons (p : Poller σ) (op : Op) (ops : List Op) :
    p.transcript (op :: ops) =
      ⟨op, p.heeds op, (p.perform op).1⟩ :: (p.perform op).2.transcript ops := rfl

theorem heededAmong_cons_of_heeds {p : Poller σ} {op : Op} (h : p.heeds op = true) (ops : List Op) :
    p.heededAmong (op :: ops) = op :: (p.perform op).2.heededAmong ops := by
  unfold heededAmong
  rw [transcript_cons, List.filter_cons_of_pos (by exact h), List.map_cons]

theorem heededAmong_cons_of_not_heeds {p : Poller σ} {op : Op} (h : p.heeds op = false)
    (ops : List Op) : p.heededAmong (op :: ops) = p.heededAmong ops := by
  unfold heededAmong
  rw [transcript_cons, List.filter_cons_of_neg (by simp [h]), perform_of_not_heeds h]

/-- What was heeded is heeded alone, and answered the same. -/
theorem transcript_heededAmong (p : Poller σ) (ops : List Op) :
    p.transcript (p.heededAmong ops) = (p.transcript ops).filter (·.heeded) := by
  induction ops generalizing p with
  | nil => rfl
  | cons op ops ih =>
    rcases hop : p.heeds op with _ | _
    · rw [heededAmong_cons_of_not_heeds hop, ih, transcript_cons,
        List.filter_cons_of_neg (by simp [hop]), perform_of_not_heeds hop]
    · rw [heededAmong_cons_of_heeds hop, transcript_cons, transcript_cons,
        List.filter_cons_of_pos (by exact hop), ih]

/-- What was not heeded makes no difference to the poller. -/
theorem after_heededAmong (p : Poller σ) (ops : List Op) :
    p.after (p.heededAmong ops) = p.after ops := by
  induction ops generalizing p with
  | nil => rfl
  | cons op ops ih =>
    rcases hop : p.heeds op with _ | _
    · rw [heededAmong_cons_of_not_heeds hop, ih]
      show p.after ops = (p.perform op).2.after ops
      rw [perform_of_not_heeds hop]
    · rw [heededAmong_cons_of_heeds hop]
      exact ih (p.perform op).2

/-- What was not heeded is a request that was refused. -/
theorem refused_of_mem_transcript {p : Poller σ} {ops : List Op} {e : Entry}
    (he : e ∈ p.transcript ops) (h : e.heeded = false) :
    e.op.ticket?.isSome = true ∧ e.answer = e.op.refusal := by
  induction ops generalizing p with
  | nil => cases he
  | cons op ops ih =>
    rcases List.mem_cons.mp he with rfl | he
    · have hop : p.heeds op = false := h
      refine ⟨?_, ?_⟩
      · show op.ticket?.isSome = true
        unfold heeds at hop
        cases ht : op.ticket? with
        | none => rw [ht] at hop; cases hop
        | some t => rfl
      · show (p.perform op).1 = op.refusal
        rw [perform_of_not_heeds hop]
    · exact ih he

/-- The number in force counts the changes of the selection. -/
theorem generation_after (p : Poller σ) (ops : List Op) :
    (p.after ops).generation = p.generation + ops.countP Op.selects := by
  induction ops generalizing p with
  | nil => rfl
  | cons op ops ih =>
    show ((p.perform op).2.after ops).generation = _
    rw [ih, generation_perform, List.countP_cons]
    omega

/-- Without a change of the selection the selected channel stays. -/
theorem selected_after {p : Poller σ} {ops : List Op} (h : ∀ op ∈ ops, op.selects = false) :
    (p.after ops).selected = p.selected := by
  induction ops generalizing p with
  | nil => rfl
  | cons op ops ih =>
    show ((p.perform op).2.after ops).selected = p.selected
    rw [ih fun o ho => h o (List.mem_cons_of_mem _ ho), selected_perform (h op List.mem_cons_self)]

/-- A current ticket stays so exactly as long as the selection is not changed. -/
theorem isCurrent_after_iff {p : Poller σ} {t : Ticket} (ht : p.isCurrent t = true)
    (ops : List Op) :
    (p.after ops).isCurrent t = true ↔ ∀ op ∈ ops, op.selects = false := by
  constructor
  · intro hlater op hop
    have hgen : t.generation = p.generation := generation_of_isCurrent ht
    have hgen' : t.generation = (p.after ops).generation := generation_of_isCurrent hlater
    rw [generation_after] at hgen'
    have hnone : ops.countP Op.selects = 0 := by omega
    simpa using List.countP_eq_zero.mp hnone op hop
  · intro hkeep
    have hgen : (p.after ops).generation = p.generation := by
      rw [generation_after, List.countP_eq_zero.mpr fun op hop => by simp [hkeep op hop]]
      rfl
    rw [isCurrent_congr (selected_after hkeep) hgen]
    exact ht

/-- **What is not heeded leaves no trace, and a ticket is current until the selection changes.**
Carried out alone, the operations that are heeded among `ops` are answered as they were among the
others and leave the same poller behind; those that are not heeded begin or complete a request and
are refused.  Whatever happened `before`, the ticket of a selection is current after some `later`
operations exactly if none of them changes the selection. -/
theorem unheeded_requests_leave_no_trace (p : Poller σ) (ops : List Op) :
    p.transcript (p.heededAmong ops) = (p.transcript ops).filter (·.heeded) ∧
      p.after (p.heededAmong ops) = p.after ops ∧
      (∀ e ∈ p.transcript ops, e.heeded = false →
        (∃ t, e.op = .begin t ∧ e.answer = .goes false) ∨
          ∃ t outcome, e.op = .complete t outcome ∧ e.answer = .completion .stale) ∧
      ∀ before c later,
        let (ticket, selected) := (p.after before).select c
        (selected.after later).isCurrent ticket = true ↔
          ∀ op ∈ later, op.selects = false := by
  refine ⟨transcript_heededAmong p ops, after_heededAmong p ops, ?_, ?_⟩
  · intro e he hstale
    obtain ⟨hticket, hanswer⟩ := refused_of_mem_transcript he hstale
    obtain ⟨op, heeded, answer⟩ := e
    cases op with
    | begin t => exact Or.inl ⟨t, rfl, hanswer⟩
    | complete t outcome => exact Or.inr ⟨t, outcome, rfl, hanswer⟩
    | select => cases hticket
    | deselect => cases hticket
    | register => cases hticket
    | subscribe => cases hticket
  · intro before c later
    exact isCurrent_after_iff (isCurrent_select (p.after before) c) later

end Poller

end Lookout
