import Mathlib.Data.List.Chain
import Mathlib.Data.List.DropRight
import Lookout.Display.Recorder
import Lookout.Proofs.Poll.Announcements
import Lookout.Proofs.Poll.Selection
/-!
# State, health and display of a poller agree

A poller keeps one thing in several places: what it is doing, the health of the channel, the picture
on the display, the count of the pictures shown, and what subscribers were told.  Operations come in
any order, and an outcome may be handed in again and again (`Poller.after`).

* **All of them agree** (`coherent_after`): after any operations on a new poller with a display that
  records, what it is doing fits the selection, the health of the selected channel and what was drawn
  last; the stream clock counts the pictures that were shown since the last selection, and holds the
  time stamp of the first of them; the display keeps its size.
* Part of the same statement is what subscribers see of a channel: it is said to answer and not to
  answer by turns, whichever comes first.

The record of a poller is its transcript, so a picture was shown if its outcome was answered with an
applied completion (`Entry.shown?`).  Each operation keeps `Poller.Coherent`; what a subscriber saw
last of a channel is its present health, and that is why the next change is the other one.
-/

namespace Lookout

/-! ### Turns -/

/-- What some announcements say of the health of a channel, in order. -/
def healthsOf (c : ChannelId) (told : List HealthChange) : List ChannelHealth :=
  (told.filter (·.channel = c)).map (·.current)

/-- The healths are online and offline by turns. -/
structure Alternate (hs : List ChannelHealth) : Prop where
  /-- Nothing else occurs. -/
  known : ∀ h ∈ hs, h = .online ∨ h = .offline
  /-- Neither comes twice in a row. -/
  turns : hs.IsChain (· ≠ ·)

theorem healthsOf_snoc (c : ChannelId) (told : List HealthChange) (e : HealthChange) :
    healthsOf c (told ++ [e]) = healthsOf c told ++ if e.channel = c then [e.current] else [] := by
  unfold healthsOf
  rw [List.filter_append, List.map_append]
  by_cases hc : e.channel = c
  · simp [hc]
  · simp [hc]

/-- Another health than the last one keeps the turns. -/
theorem Alternate.snoc {hs : List ChannelHealth} (h : Alternate hs) {g : ChannelHealth}
    (hg : g = .online ∨ g = .offline) (hlast : ∀ l ∈ hs.getLast?, l ≠ g) :
    Alternate (hs ++ [g]) where
  known := by
    intro k hk
    rcases List.mem_append.mp hk with hk | hk
    · exact h.known k hk
    · rw [List.mem_singleton.mp hk]
      exact hg
  turns := by
    refine h.turns.append (List.isChain_singleton g) ?_
    intro l hl k hk
    rw [← Option.some.inj hk]
    exact hlast l hl

namespace HealthStore

variable {s : HealthStore}

/-- What a subscriber was told of a channel goes by turns and ends with the health it has now. -/
def Alternating (s : HealthStore) : Prop :=
  ∀ u ∈ s.subscribers, ∀ c, Alternate (healthsOf c u.inbox) ∧
    ∀ h ∈ (healthsOf c u.inbox).getLast?, s.get c = h

/-- Making a channel known tells nobody. -/
theorem subscribers_register (s : HealthStore) (c : ChannelId) :
    (s.register c).subscribers = s.subscribers := by
  unfold register
  split
  · rfl
  · rfl

theorem Alternating.register (h : s.Alternating) (c : ChannelId) : (s.register c).Alternating := by
  intro u hu d
  rw [subscribers_register] at hu
  rw [get_register]
  exact h u hu d

/-- Who has just come was told nothing. -/
theorem Alternating.subscribe (h : s.Alternating) : s.subscribe.2.Alternating := by
  intro u hu c
  rcases List.mem_append.mp hu with hu | hu
  · exact h u hu c
  · rw [List.mem_singleton.mp hu]
    exact ⟨⟨nofun, List.isChain_nil⟩, nofun⟩

/-- A change of health is told as another health than the one that was told last. -/
theorem Alternating.set (h : s.Alternating) (c : ChannelId) {g : ChannelHealth}
    (hg : g = .online ∨ g = .offline) : (s.set c g).2.Alternating := by
  by_cases heq : s.get c = g
  · rw [set_of_eq heq]
    exact h
  · intro u hu d
    rw [get_set]
    rw [set_of_ne heq] at hu
    obtain ⟨t, ht, rfl⟩ := List.mem_map.mp hu
    obtain ⟨hturns, hlast⟩ := h t (List.mem_of_mem_filter ht) d
    show Alternate (healthsOf d (t.inbox ++ [⟨c, s.get c, g⟩])) ∧
      ∀ k ∈ (healthsOf d (t.inbox ++ [⟨c, s.get c, g⟩])).getLast?, _ = k
    rw [healthsOf_snoc]
    by_cases hd : d = c
    · subst hd
      rw [if_pos rfl, if_pos rfl]
      refine ⟨hturns.snoc hg ?_, ?_⟩
      · intro k hk hkg
        exact heq ((hlast k hk).trans hkg)
      · intro k hk
        rw [List.getLast?_concat] at hk
        exact Option.some.inj hk
    · rw [if_neg (Ne.symm hd), if_neg hd, List.append_nil]
      exact ⟨hturns, hlast⟩

end HealthStore

namespace Poller

/-! ### What was shown -/

namespace Op

/-- The operation selects a channel. -/
def isSelect : Op → Bool
  | .select _ => true
  | _ => false

end Op

/-- The frame that was shown, if the entry is of a request that succeeded and counted. -/
def Entry.shown? (e : Entry) : Option (Frame Float) :=
  match e.op, e.answer with
  | .complete _ (.ok frame), .completion (.applied _ _ _) => some frame
  | _, _ => none

/-- The frames that were shown since the last selection, in order. -/
def shown (es : List Entry) : List (Frame Float) :=
  (es.rtakeWhile fun e => !e.op.isSelect).filterMap Entry.shown?

theorem shown_snoc (es : List Entry) (e : Entry) :
    shown (es ++ [e]) = if e.op.isSelect then [] else shown es ++ e.shown?.toList := by
  unfold shown
  rw [List.rtakeWhile_concat]
  rcases hsel : e.op.isSelect with _ | _
  · rw [Bool.not_false, if_pos rfl, if_neg (by simp), List.filterMap_append]
    rcases hshown : e.shown? with _ | frame
    · simp [hshown]
    · simp [hshown]
  · rw [Bool.not_true, if_neg (by simp), if_pos rfl]
    rfl

/-- A picture that came for the selection in force is shown, and its channel answers. -/
theorem complete_ok_of_current {σ : Type} [Surface σ] {p : Poller σ} {t : Ticket}
    (h : p.isCurrent t = true) (frame : Frame Float) :
    p.complete t (.ok frame) =
      (.applied .healthy p.policy.successDelay (p.health.set t.channel .online).1,
        { p with
          health := (p.health.set t.channel .online).2
          display := (p.display.renderPlain frame).2
          state := .healthy }) := by
  unfold complete
  rw [h]
  rfl

/-- Where no picture came for the selection in force, its channel does not answer. -/
theorem complete_error_of_current {σ : Type} [Surface σ] {p : Poller σ} {t : Ticket}
    (h : p.isCurrent t = true) (e : ClientError) :
    p.complete t (.error e) =
      (.applied .unhealthy p.policy.failureDelay (p.health.set t.channel .offline).1,
        { p with
          health := (p.health.set t.channel .offline).2
          display := p.display.placeholder
          state := .unhealthy }) := by
  unfold complete
  rw [h]
  rfl

/-! ### What agrees -/

/-- A poller whose display records, after `fs` were shown since the last selection. -/
structure Coherent (size : Nat × Nat) (p : Poller Recorder) (fs : List (Frame Float)) : Prop where
  /-- Nothing is being done exactly if nothing is selected. -/
  idle : p.state = .idle ↔ p.selected = none
  /-- The selected channel is known. -/
  known : ∀ c, p.selected = some c → c ∈ p.health.snapshot.map Prod.fst
  /-- If the channel answered, that is its health, and a picture was drawn last. -/
  healthy : p.state = .healthy → ∃ c, p.selected = some c ∧ p.health.get c = .online ∧
    ∃ width height, p.display.surface.ops.back? = some (.picture width height)
  /-- If the channel did not answer, that is its health, and the display was cleared last. -/
  unhealthy : p.state = .unhealthy → ∃ c, p.selected = some c ∧ p.health.get c = .offline ∧
    p.display.surface.ops.back? = some .clear
  /-- The stream clock counts the frames that were shown. -/
  frameCount : p.display.clock.frameCount = fs.length
  /-- The stream began with the first of them. -/
  startTime : p.display.clock.startTime = fs.head?.map (·.timestamp)
  /-- The display has the size that it had. -/
  size : Surface.size p.display.surface = size
  /-- What subscribers were told of a channel goes by turns. -/
  told : p.health.Alternating

namespace Coherent

variable {size : Nat × Nat} {p : Poller Recorder} {fs : List (Frame Float)} {es : List Entry}

/-- A new poller, on any recorder. -/
theorem new (policy : PollPolicy) (surface : Recorder) (style : OverlayStyle) (readouts : Readouts) :
    Coherent (Surface.size surface) { policy, display := { surface, style, readouts } } [] where
  idle := ⟨fun _ => rfl, fun _ => rfl⟩
  known := nofun
  healthy := nofun
  unhealthy := nofun
  frameCount := rfl
  startTime := rfl
  size := rfl
  told := nofun

/-- A selection begins a new stream, for a channel that becomes known. -/
theorem select (h : Coherent size p fs) (c : ChannelId) : Coherent size (p.select c).2 [] where
  idle := ⟨nofun, nofun⟩
  known := by
    intro d hd
    obtain rfl := Option.some.inj hd
    exact (HealthStore.mem_keys_perform p.health (.register c) c).mpr (Or.inr (Or.inl rfl))
  healthy := nofun
  unhealthy := nofun
  frameCount := rfl
  startTime := rfl
  size := h.size
  told := h.told.register c

theorem deselect (h : Coherent size p fs) : Coherent size p.deselect fs where
  idle := ⟨fun _ => rfl, fun _ => rfl⟩
  known := nofun
  healthy := nofun
  unhealthy := nofun
  frameCount := h.frameCount
  startTime := h.startTime
  size := h.size
  told := h.told

theorem begin (h : Coherent size p fs) (t : Ticket) : Coherent size (p.begin t).2 fs := by
  rcases hcur : p.isCurrent t with _ | _
  · rw [begin_of_stale hcur]
    exact h
  · rw [begin_of_current hcur]
    have hsel : p.selected = some t.channel := selected_of_isCurrent hcur
    exact { h with
      idle := ⟨nofun, fun hnone => by rw [hsel] at hnone; cases hnone⟩
      healthy := nofun
      unhealthy := nofun }

/-- Other changes of the health of channels: it stays what it is, and known channels stay known. -/
theorem setHealth (h : Coherent size p fs) {health : HealthStore}
    (hget : ∀ c, health.get c = p.health.get c)
    (hknown : ∀ c, c ∈ p.health.snapshot.map Prod.fst → c ∈ health.snapshot.map Prod.fst)
    (htold : health.Alternating) : Coherent size { p with health } fs := by
  exact { h with
    known := fun c hc => hknown c (h.known c hc)
    healthy := fun hstate => by
      obtain ⟨c, hsel, honline, hlast⟩ := h.healthy hstate
      exact ⟨c, hsel, (hget c).trans honline, hlast⟩
    unhealthy := fun hstate => by
      obtain ⟨c, hsel, hoffline, hlast⟩ := h.unhealthy hstate
      exact ⟨c, hsel, (hget c).trans hoffline, hlast⟩
    told := htold }

/-- A channel that was known before is known after its health was stored. -/
theorem mem_snapshot_set {health : HealthStore} {c d : ChannelId} (g : ChannelHealth)
    (hd : d ∈ health.snapshot.map Prod.fst) : d ∈ (health.set c g).2.snapshot.map Prod.fst :=
  (HealthStore.mem_keys_perform health (.set c g) d).mpr (Or.inl hd)

/-- A picture that came for the selection in force is shown. -/
theorem complete_ok (h : Coherent size p fs) {t : Ticket} (hcur : p.isCurrent t = true)
    (frame : Frame Float) : Coherent size (p.complete t (.ok frame)).2 (fs ++ [frame]) := by
  have hsel : p.selected = some t.channel := selected_of_isCurrent hcur
  rw [complete_ok_of_current hcur]
  exact {
    idle := ⟨nofun, fun hnone => by rw [hsel] at hnone; cases hnone⟩
    known := fun c hc => mem_snapshot_set .online (h.known c hc)
    healthy := fun _ => by
      refine ⟨t.channel, hsel, ?_, _, _, Array.back?_push⟩
      rw [HealthStore.get_set, if_pos rfl]
    unhealthy := nofun
    frameCount := by
      show p.display.clock.frameCount + 1 = _
      rw [h.frameCount, List.length_append]
      rfl
    startTime := by
      show some (p.display.clock.startTime.getD frame.timestamp) = _
      rw [h.startTime]
      cases fs with
      | nil => rfl
      | cons f fs => rfl
    size := h.size
    told := h.told.set t.channel (Or.inl rfl) }

/-- Where no picture came for the selection in force, the display is cleared. -/
theorem complete_error (h : Coherent size p fs) {t : Ticket} (hcur : p.isCurrent t = true)
    (e : ClientError) : Coherent size (p.complete t (.error e)).2 fs := by
  have hsel : p.selected = some t.channel := selected_of_isCurrent hcur
  rw [complete_error_of_current hcur]
  exact {
    idle := ⟨nofun, fun hnone => by rw [hsel] at hnone; cases hnone⟩
    known := fun c hc => mem_snapshot_set .offline (h.known c hc)
    healthy := nofun
    unhealthy := fun _ => by
      refine ⟨t.channel, hsel, ?_, Array.back?_push⟩
      rw [HealthStore.get_set, if_pos rfl]
    frameCount := h.frameCount
    startTime := h.startTime
    size := h.size
    told := h.told.set t.channel (Or.inr rfl) }

/-- An outcome is shown exactly if it is a picture and counts. -/
theorem complete (h : Coherent size p fs) (t : Ticket)
    (outcome : Except ClientError (Frame Float)) (heeded : Bool) :
    Coherent size (p.complete t outcome).2 (fs ++ (Entry.shown? ⟨.complete t outcome, heeded,
      .completion (p.complete t outcome).1⟩).toList) := by
  rcases hcur : p.isCurrent t with _ | _
  · rw [complete_of_stale hcur]
    cases outcome with
    | ok frame =>
      show Coherent size p (fs ++ [])
      rw [List.append_nil]
      exact h
    | error e =>
      show Coherent size p (fs ++ [])
      rw [List.append_nil]
      exact h
  · cases outcome with
    | ok frame =>
      have hshown := h.complete_ok hcur frame
      rw [complete_ok_of_current hcur] at hshown ⊢
      exact hshown
    | error e =>
      show Coherent size _ (fs ++ [])
      rw [List.append_nil]
      exact h.complete_error hcur e

/-- Every operation keeps the agreement. -/
theorem perform (h : Coherent size p (shown es)) (op : Op) :
    Coherent size (p.perform op).2 (shown (es ++ [⟨op, p.heeds op, (p.perform op).1⟩])) := by
  have hnone {q : Poller Recorder} (hq : Coherent size q (shown es)) :
      Coherent size q (shown es ++ []) := by
    rw [List.append_nil]
    exact hq
  rw [shown_snoc]
  cases op with
  | select c => exact h.select c
  | deselect => exact hnone h.deselect
  | begin t => exact hnone (h.begin t)
  | complete t outcome => exact h.complete t outcome _
  | register c =>
    refine hnone (h.setHealth (fun d => HealthStore.get_register p.health c d) ?_
      (h.told.register c))
    intro d hd
    exact (HealthStore.mem_keys_perform p.health (.register c) d).mpr (Or.inl hd)
  | subscribe => exact hnone (h.setHealth (fun _ => rfl) (fun _ hd => hd) h.told.subscribe)

end Coherent

/-! ### The statement -/

/-- **State, health, display and clock agree, and changes of health are told by turns.** Carry out any
operations on a new poller with a display that records.  Then the poller does nothing exactly if
nothing is selected; the selected channel is known; if the channel is said to have answered, that is
its health and a picture was drawn last, and if it is said not to have answered, that is its health
and the display was cleared last; the stream clock counts the pictures that were shown since the last
selection and holds the time stamp of the first; the display has its size still; and whoever
subscribed was told of each channel that it answers and that it does not by turns. -/
theorem coherent_after (policy : PollPolicy) (surface : Recorder) (style : OverlayStyle)
    (readouts : Readouts) (ops : List Op) :
    let start : Poller Recorder := { policy, display := { surface, style, readouts } }
    Coherent (Surface.size surface) (start.after ops) (shown (start.transcript ops)) := by
  intro start
  induction ops using List.reverseRecOn with
  | nil => exact Coherent.new policy surface style readouts
  | append_singleton ops op ih =>
    rw [after_append, transcript_append]
    exact ih.perform op

end Poller

end Lookout
