import Lookout.Proofs.Pipeline.Likeness
/-!
# The sources of a pipeline

A source is connected, asked for frames and stopped.  A `Ledger` is a world that takes down each of
these calls, in the order in which they are made; a source is known in it by a number, which it is
given when it is first used (`Numbered`).  `Pipeline.release` is what is done when a pipeline is
given up: a session that is still there stops its source.

* **Sources are well kept** (`WellKept`): at every moment there is at most one source that is
  connected and not stopped, a source is connected only while there is none, only the source that
  there is is asked for a frame and stopped, and at the end each source that was connected has been
  stopped once.
* **The ledger changes nothing** (`erasing_lawful`): without it a pipeline gives back the same and
  goes the same way, since it is like the pipeline with numbers.

The law is read off the calls alone.  `Trail` says which calls may follow which, one by one, and
`Trail.wellKept` is by induction on it; that a pipeline and its ledger keep to it (`Attended`) is
the invariant, with one lemma for each thing that is done with a session.
-/

namespace Lookout

/-! ### The law of the calls -/

/-- Something that is done with a source. -/
inductive SourceCall where
  /-- It was connected, or could not be. -/
  | connected (source : Nat) (ok : Bool)
  /-- It was asked for a frame. -/
  | asked (source : Nat)
  /-- It was stopped. -/
  | stopped (source : Nat)
  deriving DecidableEq, Repr

namespace SourceCall

/-- The source that it is done with. -/
def source : SourceCall → Nat
  | .connected n _ => n
  | .asked n => n
  | .stopped n => n

end SourceCall

/-- A source is connected and not yet stopped. -/
def IsOpen (n : Nat) (log : List SourceCall) : Prop :=
  .connected n true ∈ log ∧ .stopped n ∉ log

/-- Sources are well kept, from the first call to the last. -/
structure WellKept (log : List SourceCall) : Prop where
  /-- At every moment at most one source is open. -/
  single : ∀ before after m n, log = before ++ after → IsOpen m before → IsOpen n before → m = n
  /-- A source is connected once, while no source is open. -/
  connected : ∀ before after n ok, log = before ++ .connected n ok :: after →
    (∀ m, ¬ IsOpen m before) ∧ ∀ ok', .connected n ok' ∉ before
  /-- A source is asked for a frame only while it is open. -/
  asked : ∀ before after n, log = before ++ .asked n :: after → IsOpen n before
  /-- A source is stopped only while it is open. -/
  stopped : ∀ before after n, log = before ++ .stopped n :: after → IsOpen n before
  /-- Each source that was connected was stopped once by the end. -/
  closed : ∀ n, .connected n true ∈ log → log.count (.stopped n) = 1

/-- Calls that follow one another, how many sources there were, and which one is open. -/
inductive Trail : List SourceCall → Nat → Option Nat → Prop where
  /-- No call was made. -/
  | nil : Trail [] 0 none
  /-- A new source could not be connected. -/
  | refused {log : List SourceCall} {k : Nat} (h : Trail log k none) :
    Trail (log ++ [.connected k false]) (k + 1) none
  /-- A new source was connected. -/
  | opened {log : List SourceCall} {k : Nat} (h : Trail log k none) :
    Trail (log ++ [.connected k true]) (k + 1) (some k)
  /-- The source that is open was asked for a frame. -/
  | asked {log : List SourceCall} {k n : Nat} (h : Trail log k (some n)) :
    Trail (log ++ [.asked n]) k (some n)
  /-- The source that is open was stopped. -/
  | stopped {log : List SourceCall} {k n : Nat} (h : Trail log k (some n)) :
    Trail (log ++ [.stopped n]) k none

namespace Trail

variable {log before after : List SourceCall} {call : SourceCall} {k n : Nat} {open? : Option Nat}

/-- The source that is open is one of those that there were. -/
theorem open_lt (h : Trail log k (some n)) : n < k := by
  generalize hopen : some n = open? at h
  induction h with
  | nil => cases hopen
  | refused h ih => cases hopen
  | @opened log k h ih =>
    obtain rfl := Option.some.inj hopen
    exact Nat.lt_succ_self n
  | asked h ih => exact ih hopen
  | stopped h ih => cases hopen

/-- Calls are made to sources that there were. -/
theorem source_lt (h : Trail log k open?) (hcall : call ∈ log) : call.source < k := by
  induction h with
  | nil => cases hcall
  | @refused log k h ih =>
    rcases List.mem_append.1 hcall with hbefore | hlast
    · exact Nat.lt_succ_of_lt (ih hbefore)
    · obtain rfl := List.mem_singleton.1 hlast
      exact Nat.lt_succ_self k
  | @opened log k h ih =>
    rcases List.mem_append.1 hcall with hbefore | hlast
    · exact Nat.lt_succ_of_lt (ih hbefore)
    · obtain rfl := List.mem_singleton.1 hlast
      exact Nat.lt_succ_self k
  | asked h ih =>
    rcases List.mem_append.1 hcall with hbefore | hlast
    · exact ih hbefore
    · obtain rfl := List.mem_singleton.1 hlast
      exact h.open_lt
  | stopped h ih =>
    rcases List.mem_append.1 hcall with hbefore | hlast
    · exact ih hbefore
    · obtain rfl := List.mem_singleton.1 hlast
      exact h.open_lt

/-- Which source is open. -/
theorem isOpen_iff (h : Trail log k open?) (n : Nat) : IsOpen n log ↔ open? = some n := by
  unfold IsOpen
  induction h with
  | nil => simp
  | refused h ih => simpa using ih
  | @opened log k h ih =>
    have hnew : SourceCall.stopped k ∉ log := fun hmem => Nat.lt_irrefl k (h.source_lt hmem)
    constructor
    · rintro ⟨hconnected, hstopped⟩
      rw [List.mem_append, List.mem_singleton, not_or] at hstopped
      rcases List.mem_append.1 hconnected with hbefore | hlast
      · cases ih.1 ⟨hbefore, hstopped.1⟩
      · cases List.mem_singleton.1 hlast
        rfl
    · intro hopen
      obtain rfl := Option.some.inj hopen
      exact ⟨by simp, by simpa using hnew⟩
  | asked h ih => simpa using ih
  | @stopped log k m h ih =>
    constructor
    · rintro ⟨hconnected, hstopped⟩
      rw [List.mem_append, List.mem_singleton, not_or] at hstopped
      have hbefore : SourceCall.connected n true ∈ log := by simpa using hconnected
      obtain rfl := Option.some.inj (ih.1 ⟨hbefore, hstopped.1⟩)
      exact absurd rfl hstopped.2
    · intro hopen
      cases hopen

/-- How often a source that was connected was stopped. -/
theorem count_stopped (h : Trail log k open?) (hconnected : .connected n true ∈ log) :
    log.count (.stopped n) = if open? = some n then 0 else 1 := by
  induction h with
  | nil => cases hconnected
  | @refused log k h ih =>
    have hbefore : SourceCall.connected n true ∈ log := by simpa using hconnected
    rw [List.count_append, ih hbefore]
    rfl
  | @opened log k h ih =>
    have hnew : SourceCall.stopped k ∉ log := fun hmem => Nat.lt_irrefl k (h.source_lt hmem)
    rw [List.count_append]
    rcases List.mem_append.1 hconnected with hbefore | hlast
    · have hne : k ≠ n := Nat.ne_of_gt (h.source_lt hbefore)
      rw [ih hbefore]
      simp [hne]
    · obtain rfl : n = k := by simpa using hlast
      rw [List.count_eq_zero.2 hnew]
      simp
  | @asked log k m h ih =>
    have hbefore : SourceCall.connected n true ∈ log := by simpa using hconnected
    rw [List.count_append, ih hbefore]
    rfl
  | @stopped log k m h ih =>
    have hbefore : SourceCall.connected n true ∈ log := by simpa using hconnected
    rw [List.count_append, ih hbefore]
    by_cases hm : m = n
    · simp [hm]
    · simp [hm]

/-- What was so at every earlier moment. -/
theorem of_prefix (h : Trail log k open?) (hbefore : before <+: log) :
    ∃ k' open', Trail before k' open' := by
  induction h with
  | nil =>
    obtain rfl := List.prefix_nil.1 hbefore
    exact ⟨_, _, .nil⟩
  | refused h ih =>
    rcases List.prefix_concat_iff.1 hbefore with rfl | hbefore
    · exact ⟨_, _, .refused h⟩
    · exact ih hbefore
  | opened h ih =>
    rcases List.prefix_concat_iff.1 hbefore with rfl | hbefore
    · exact ⟨_, _, .opened h⟩
    · exact ih hbefore
  | asked h ih =>
    rcases List.prefix_concat_iff.1 hbefore with rfl | hbefore
    · exact ⟨_, _, .asked h⟩
    · exact ih hbefore
  | stopped h ih =>
    rcases List.prefix_concat_iff.1 hbefore with rfl | hbefore
    · exact ⟨_, _, .stopped h⟩
    · exact ih hbefore

/-- What there is to say of the calls before one: none is open when a new source is connected, and
other calls are to the source that is. -/
def Before (calls : List SourceCall) : SourceCall → Prop
  | .connected n _ => Trail calls n none
  | .asked n => ∃ k, Trail calls k (some n)
  | .stopped n => ∃ k, Trail calls k (some n)

/-- The last call follows on those before it. -/
theorem last (h : Trail (before ++ [call]) k open?) : Before before call := by
  generalize hlog : before ++ [call] = log at h
  cases h with
  | nil => simp at hlog
  | refused h =>
    obtain ⟨rfl, hcall⟩ := List.append_inj' hlog rfl
    obtain rfl := List.singleton_inj.1 hcall
    exact h
  | opened h =>
    obtain ⟨rfl, hcall⟩ := List.append_inj' hlog rfl
    obtain rfl := List.singleton_inj.1 hcall
    exact h
  | asked h =>
    obtain ⟨rfl, hcall⟩ := List.append_inj' hlog rfl
    obtain rfl := List.singleton_inj.1 hcall
    exact ⟨_, h⟩
  | stopped h =>
    obtain ⟨rfl, hcall⟩ := List.append_inj' hlog rfl
    obtain rfl := List.singleton_inj.1 hcall
    exact ⟨_, h⟩

/-- Every call follows on those before it. -/
theorem before_call (h : Trail log k open?) (hlog : log = before ++ call :: after) :
    Before before call := by
  have hprefix : before ++ [call] <+: log := by
    refine ⟨after, ?_⟩
    rw [hlog, List.append_assoc, List.singleton_append]
  obtain ⟨k', open', hupTo⟩ := h.of_prefix hprefix
  exact hupTo.last

/-- **Calls that follow one another keep sources well**, if none is open at the end. -/
theorem wellKept (h : Trail log k none) : WellKept log := by
  constructor
  case single =>
    intro before after m n hlog hm hn
    obtain ⟨k', open', hbefore⟩ := h.of_prefix ⟨after, hlog.symm⟩
    rw [hbefore.isOpen_iff] at hm hn
    exact Option.some.inj (hm.symm.trans hn)
  case connected =>
    intro before after n ok hlog
    have hbefore : Trail before n none := h.before_call hlog
    constructor
    · intro m hm
      cases (hbefore.isOpen_iff m).1 hm
    · intro ok' hmem
      exact Nat.lt_irrefl n (hbefore.source_lt hmem)
  case asked =>
    intro before after n hlog
    obtain ⟨k', hbefore⟩ := h.before_call hlog
    exact (hbefore.isOpen_iff n).2 rfl
  case stopped =>
    intro before after n hlog
    obtain ⟨k', hbefore⟩ := h.before_call hlog
    exact (hbefore.isOpen_iff n).2 rfl
  case closed =>
    intro n hconnected
    exact h.count_stopped hconnected

end Trail

/-! ### Numbered sources and their ledger -/

/-- A source with the number that it is known by, once it has one. -/
structure Numbered (κ : Type) where
  /-- The source. -/
  source : κ
  /-- Its number. -/
  number? : Option Nat := none

/-- A world with the calls that were made in it to sources. -/
structure Ledger (ω : Type) where
  /-- The world. -/
  world : ω
  /-- How many numbers were given out. -/
  issued : Nat := 0
  /-- The calls, in order. -/
  log : List SourceCall := []

namespace Ledger

variable {κ δ ω : Type}

/-- The number of a source; a source without one is given the next. -/
def number (l : Ledger ω) : Option Nat → Nat × Ledger ω
  | some n => (n, l)
  | none => (l.issued, { l with issued := l.issued + 1 })

/-- A call was made. -/
def note (l : Ledger ω) (w : ω) (call : SourceCall) : Ledger ω :=
  { l with world := w, log := l.log ++ [call] }

/-- Every call to a numbered source is taken down. -/
instance [FrameSource κ ω Float] : FrameSource (Numbered κ) (Ledger ω) Float where
  connect s l :=
    let (n, l) := l.number s.number?
    let (outcome, source, w) := FrameSource.connect s.source l.world
    (outcome, ⟨source, some n⟩, l.note w (.connected n outcome.isOk))
  next s l :=
    let (n, l) := l.number s.number?
    let (delivery, source, w) := FrameSource.next s.source l.world
    (delivery, ⟨source, some n⟩, l.note w (.asked n))
  stop s l :=
    let (n, l) := l.number s.number?
    let (source, w) := FrameSource.stop s.source l.world
    (⟨source, some n⟩, l.note w (.stopped n))
  isHealthy s l :=
    let (healthy, w) := FrameSource.isHealthy s.source l.world
    (healthy, { l with world := w })

instance [DetectionService δ ω] : DetectionService δ (Ledger ω) where
  submit octets mediaType detector l :=
    let (answer, detector, w) := DetectionService.submit octets mediaType detector l.world
    (answer, detector, { l with world := w })

end Ledger

/-! ### What sessions do in a ledger -/

/-- The source of a session, if there is one, is connected and known by the number of the source
that is open. -/
inductive Held {κ : Type} : Option (Session (Numbered κ)) → Option Nat → Prop where
  /-- There is no session. -/
  | none : Held none none
  /-- There is a session. -/
  | some {s : Session (Numbered κ)} {n : Nat} (alive : s.stopped = false)
    (known : s.source.number? = some n) : Held (some s) (some n)

namespace Session

variable {κ ω : Type} [FrameSource κ ω Float]

/-- A source that was stopped is not stopped again. -/
theorem stop_stop (s : Session κ) (w : ω) : (s.stop w).1.stop (s.stop w).2 = s.stop w := by
  unfold stop
  by_cases h : s.stopped = true
  · rw [if_pos h, if_pos h]
  · rw [if_neg h]
    rfl

variable {s : Session (Numbered κ)} {l : Ledger ω} {open? : Option Nat}

/-- A session stops the source that is open. -/
theorem stop_trail (hs : Held (some s) open?) (h : Trail l.log l.issued open?) :
    Trail (s.stop l).2.log (s.stop l).2.issued none := by
  cases hs with
  | @some s n halive hknown =>
    have hstop : (s.stop l).2 =
        l.note (FrameSource.stop s.source.source l.world).2 (.stopped n) := by
      unfold stop
      rw [halive, if_neg Bool.false_ne_true]
      simp only [FrameSource.stop, hknown, Ledger.number]
    rw [hstop]
    exact .stopped h

/-- A session asks the source that is open for a frame. -/
theorem next_trail (hs : Held (some s) open?) (h : Trail l.log l.issued open?) :
    Held (some (s.next l).2.1) open? ∧
      Trail (s.next l).2.2.log (s.next l).2.2.issued open? := by
  cases hs with
  | @some s n halive hknown =>
    have hnext : s.next l = ((FrameSource.next s.source.source l.world).1,
        { s with source := ⟨(FrameSource.next s.source.source l.world).2.1, some n⟩ },
        l.note (FrameSource.next s.source.source l.world).2.2 (.asked n)) := by
      unfold next
      rw [halive, if_neg Bool.false_ne_true]
      simp only [FrameSource.next, hknown, Ledger.number]
    rw [hnext]
    exact ⟨.some halive rfl, .asked h⟩

/-- A session is started over a new source while none is open. -/
theorem start_trail (deviceId : String) (constraints : Constraints) {source : Numbered κ}
    (hnew : source.number? = none) (h : Trail l.log l.issued none) :
    ∃ open?, Held (start deviceId constraints source l).1.toOption open? ∧
      Trail (start deviceId constraints source l).2.log
        (start deviceId constraints source l).2.issued open? := by
  have hconnect : FrameSource.connect source l =
      ((FrameSource.connect source.source l.world).1,
        ⟨(FrameSource.connect source.source l.world).2.1, some l.issued⟩,
        { l with issued := l.issued + 1 }.note (FrameSource.connect source.source l.world).2.2
          (.connected l.issued (FrameSource.connect source.source l.world).1.isOk)) := by
    simp only [FrameSource.connect, hnew, Ledger.number]
  unfold start
  rw [hconnect]
  rcases FrameSource.connect source.source l.world with ⟨e | _, source', w⟩
  · exact ⟨none, .none, .refused h⟩
  · exact ⟨some l.issued, .some rfl rfl, .opened h⟩

end Session

namespace Pipeline

variable {σ κ δ ω : Type}

/-! ### The invariant -/

/-- The source of the session is the one that is open, and there are new sources for sessions to
come. -/
structure Attended (p : Pipeline σ (Numbered κ) δ) (l : Ledger ω) : Prop where
  /-- The sources that devices have were not used before. -/
  fresh : ∀ settings source, p.sourceOf settings = .ok source → source.number? = none
  /-- The source of the session is open. -/
  held : ∃ open?, Held p.session open? ∧ Trail l.log l.issued open?

section

variable [FrameSource κ ω Float] {p q : Pipeline σ (Numbered κ) δ} {l m : Ledger ω}

/-- After the end of a session no source is open. -/
theorem stop_trail (h : Attended p l) :
    Trail (p.stop l).2.log (p.stop l).2.issued none := by
  obtain ⟨open?, hheld, htrail⟩ := h.held
  unfold stop
  rcases hsession : p.session with _ | s
  · rw [hsession] at hheld
    cases hheld
    exact htrail
  · rw [hsession] at hheld
    exact s.stop_trail hheld htrail

omit [FrameSource κ ω Float] in
/-- A pipeline without a session is attended when no source is open. -/
theorem attended_of_none (hfresh : ∀ settings source, q.sourceOf settings = .ok source →
    source.number? = none) (hnone : q.session = none) (h : Trail m.log m.issued none) :
    Attended q m := by
  refine ⟨hfresh, none, ?_, h⟩
  rw [hnone]
  exact .none

omit [FrameSource κ ω Float] in
/-- Without a session no source is open, and each that was connected was stopped once. -/
theorem Attended.closed (h : Attended p l) (hnone : p.session = none) :
    (∀ n, ¬ IsOpen n l.log) ∧
      ∀ n, .connected n true ∈ l.log → l.log.count (.stopped n) = 1 := by
  obtain ⟨open?, hheld, htrail⟩ := h.held
  rw [hnone] at hheld
  cases hheld
  refine ⟨?_, ?_⟩
  · intro n hopen
    cases (htrail.isOpen_iff n).1 hopen
  · intro n hconnected
    exact htrail.count_stopped hconnected

/-- The end of a session. -/
theorem stop_attended (h : Attended p l) : Attended (p.stop l).1 (p.stop l).2 := by
  have hfresh : (p.stop l).1.sourceOf = p.sourceOf := by
    unfold stop
    rcases p.session with _ | s
    · rfl
    · rfl
  refine attended_of_none ?_ (p.session_stop l).1 (stop_trail h)
  rw [hfresh]
  exact h.fresh

/-- A session over a new source in place of the one that is there. -/
theorem restart_attended (h : Attended p l) (deviceId : String) (constraints : Constraints)
    {source : Numbered κ} (hnew : source.number? = none) :
    Attended (p.restart deviceId constraints source l).2.1
      (p.restart deviceId constraints source l).2.2 := by
  have hstop := stop_attended h
  obtain ⟨open?, hheld, htrail⟩ :=
    Session.start_trail deviceId constraints hnew (stop_trail h)
  unfold restart
  rcases hstart : Session.start deviceId constraints source (p.stop l).2 with ⟨e | s, m⟩
  · rw [hstart] at hheld htrail
    cases hheld
    exact attended_of_none hstop.fresh (p.session_stop l).1 htrail
  · rw [hstart] at hheld htrail
    exact ⟨hstop.fresh, open?, hheld, htrail⟩

variable [Surface σ] [DetectionService δ ω]

omit [FrameSource κ ω Float] in
/-- Asking the service takes nothing down. -/
theorem detect_ledger (p : Pipeline σ (Numbered κ) δ) (frame : Frame Float) (l : Ledger ω) :
    (p.detect frame l).2.2.2.log = l.log ∧ (p.detect frame l).2.2.2.issued = l.issued := by
  rw [detect_eq]
  rcases Snapshot.take frame.picture (Surface.size p.renderer.surface).1
    (Surface.size p.renderer.surface).2 p.settings.format with e | snapshot
  · exact ⟨rfl, rfl⟩
  · exact ⟨rfl, rfl⟩

omit [FrameSource κ ω Float] in
/-- Dealing with a frame takes nothing down. -/
theorem process_attended {frame : Frame Float} {report : IterationReport} (h : Attended p l)
    (hprocess : p.process frame l = .ok (report, q, m)) : Attended q m := by
  obtain ⟨hsession, -, hsourceOf, hworld⟩ := process_keeps hprocess
  obtain ⟨hlog, hissued⟩ := (p.fit frame).detect_ledger frame l
  rw [← hworld] at hlog hissued
  refine ⟨?_, ?_⟩
  · rw [hsourceOf]
    exact h.fresh
  · rw [hsession, hlog, hissued]
    exact h.held

/-- An iteration. -/
theorem step_attended {outcome : Except AcquisitionError (Option IterationReport)}
    (h : Attended p l) (hstep : p.step l = .ok (outcome, q, m)) : Attended q m := by
  rcases hrunning : p.isRunning with _ | _
  · rw [step_of_idle hrunning] at hstep
    cases hstep
    exact h
  · obtain ⟨s, s', l', hsession, hcases⟩ := step_cases hrunning hstep
    obtain ⟨open?, hheld, htrail⟩ := h.held
    rw [hsession] at hheld
    have hnext := s.next_trail hheld htrail
    rcases hcases with ⟨e, hlost, -, hstop⟩ | ⟨frame, report, hframe, -, hprocess⟩
    · rw [hlost] at hnext
      have hwaited : Attended { p with session := some s' } l' := ⟨h.fresh, open?, hnext⟩
      have hstopped := stop_attended hwaited
      rw [hstop] at hstopped
      exact hstopped
    · rw [hframe] at hnext
      have hwaited : Attended { p with session := some s' } l' := ⟨h.fresh, open?, hnext⟩
      exact process_attended hwaited hprocess

/-- **Operations keep to the law.** -/
theorem perform_attended {op : Op (Numbered κ)} {answer : Answer}
    (hop : op.Hands fun source => source.number? = none) (h : Attended p l)
    (hact : perform op p l = .ok (answer, q, m)) : Attended q m := by
  rcases perform_cases hact with ⟨rfl, rfl⟩ | ⟨rfl, rfl⟩ | hstop |
    ⟨deviceId, constraints, source, hrestart, hsource⟩ | ⟨outcome, hstep⟩
  · exact ⟨h.fresh, h.held⟩
  · exact ⟨h.fresh, h.held⟩
  · have hstopped := stop_attended h
    rw [hstop] at hstopped
    exact hstopped
  · have hnew : source.number? = none := by
      rcases hsource with rfl | ⟨settings, hsource⟩
      · exact hop
      · exact h.fresh settings source hsource
    have hrestarted := restart_attended h deviceId constraints hnew
    rw [hrestart] at hrestarted
    exact hrestarted
  · exact step_attended h hstep

end

/-! ### Without the ledger -/

section

variable {p : Pipeline σ (Numbered κ) δ} {q : Pipeline σ κ δ}

/-- A pipeline without the numbers of its sources. -/
def plain (p : Pipeline σ (Numbered κ) δ) : Pipeline σ κ δ where
  catalog := p.catalog
  settings := p.settings
  sourceOf := fun settings => (p.sourceOf settings).map Numbered.source
  detector := p.detector
  renderer := p.renderer
  session := p.session.map fun s => ⟨s.deviceId, s.constraints, s.source.source, s.stopped⟩
  paused := p.paused
  fitSurface := p.fitSurface

/-- The pipeline is the same but for the numbers of its sources, and the world is the same. -/
def erasing (σ κ δ ω : Type) : Likeness σ (Numbered κ) δ (Ledger ω) σ κ δ ω where
  source numbered source := numbered.source = source
  world l w := l.world = w
  detector := (· = ·)
  renderer := (· = ·)
  overlay := (· = ·)
  report := (· = ·)

/-- Pipelines that are the same but for the numbers. -/
theorem plain_eq (h : (erasing σ κ δ ω).Pipelines p q) : p.plain = q := by
  have hsourceOf : (fun settings => (p.sourceOf settings).map Numbered.source) = q.sourceOf := by
    funext settings
    have hsource := h.sourceOf settings
    generalize p.sourceOf settings = x at hsource ⊢
    generalize q.sourceOf settings = y at hsource ⊢
    cases hsource with
    | failed e => rfl
    | come hsource => exact congrArg Except.ok hsource
  have hsession : p.session.map
      (fun s => ⟨s.deviceId, s.constraints, s.source.source, s.stopped⟩) = q.session := by
    have hsession := h.session
    generalize p.session = x at hsession ⊢
    generalize q.session = y at hsession ⊢
    cases hsession with
    | none => rfl
    | @some s t hs =>
      obtain ⟨deviceId, constraints, source, stopped⟩ := t
      cases hs.deviceId
      cases hs.constraints
      cases hs.source
      cases hs.stopped
      rfl
  obtain ⟨catalog, settings, sourceOf, detector, renderer, session, paused, fitSurface⟩ := q
  cases h.catalog
  cases h.settings
  cases h.detector
  cases h.renderer
  cases h.paused
  cases h.fitSurface
  cases hsourceOf
  cases hsession
  rfl

variable [FrameSource κ ω Float] [Surface σ] [DetectionService δ ω]

/-- **The ledger changes nothing.** -/
theorem erasing_lawful : (erasing σ κ δ ω).Lawful where
  connect := by
    rintro ⟨source, _ | n⟩ _ l _ rfl rfl
    · exact ⟨rfl, rfl, rfl⟩
    · exact ⟨rfl, rfl, rfl⟩
  next := by
    rintro ⟨source, _ | n⟩ _ l _ rfl rfl
    · exact ⟨rfl, rfl, rfl⟩
    · exact ⟨rfl, rfl, rfl⟩
  stop := by
    rintro ⟨source, _ | n⟩ _ l _ rfl rfl
    · exact ⟨rfl, rfl⟩
    · exact ⟨rfl, rfl⟩
  resetClock := by
    rintro r _ rfl
    rfl
  size := by
    rintro r _ rfl
    rfl
  resize := by
    rintro r _ width height rfl
    rfl
  unasked := rfl
  submit := by
    rintro d _ l _ octets mediaType rfl rfl
    exact ⟨rfl, rfl, rfl⟩
  render := by
    rintro r _ a _ frame rfl rfl -
    rcases r.render frame a.1 with fault | ⟨report, renderer⟩
    · exact .failed fault
    · exact .come ⟨rfl, rfl⟩

end

/-! ### The life of a pipeline -/

/-- An operation, with a source that has no number yet. -/
def Op.numbered : Op κ → Op (Numbered κ)
  | .start constraints => .start constraints
  | .startWith deviceId source => .startWith deviceId { source }
  | .pause => .pause
  | .resume => .resume
  | .stop => .stop
  | .step => .step

/-- A request, with a source that has no number yet. -/
def Request.numbered : Request κ → Request (Numbered κ)
  | .act op => .act op.numbered
  | .run limit fuel i => .run limit fuel i

/-- The sources of devices, without numbers yet. -/
def numbering (sourceOf : SourceSettings → Except AcquisitionError κ)
    (settings : SourceSettings) : Except AcquisitionError (Numbered κ) :=
  (sourceOf settings).map fun source => { source }

/-- Give up a pipeline: a session that is still there stops its source. -/
def release [FrameSource κ ω Float] (p : Pipeline σ κ δ) (w : ω) : ω :=
  match p.session with
  | none => w
  | some s => (s.stop w).2

/-- The sources of devices have no number yet. -/
theorem number?_numbering {sourceOf : SourceSettings → Except AcquisitionError κ}
    {settings : SourceSettings} {source : Numbered κ}
    (h : numbering sourceOf settings = .ok source) : source.number? = none := by
  unfold numbering at h
  rcases hsource : sourceOf settings with e | source'
  · rw [hsource] at h
    cases h
  · rw [hsource] at h
    cases h
    rfl

/-- The sources of devices are the same without numbers. -/
theorem both_numbering (sourceOf : SourceSettings → Except AcquisitionError κ)
    (settings : SourceSettings) :
    Both (fun (numbered : Numbered κ) source => numbered.source = source)
      (numbering sourceOf settings) (sourceOf settings) := by
  unfold numbering
  rcases sourceOf settings with e | source
  · exact .failed e
  · exact .come rfl

/-- Sources that are handed over have no number yet. -/
theorem hands_numbered (r : Request κ) :
    r.numbered.Hands fun source => source.number? = none := by
  cases r with
  | act op =>
    cases op with
    | start constraints => trivial
    | startWith deviceId source => rfl
    | pause => trivial
    | resume => trivial
    | stop => trivial
    | step => trivial
  | run limit fuel i => trivial

/-- An operation is the same without numbers. -/
theorem ops_numbered (op : Op κ) : (erasing σ κ δ ω).Ops op.numbered op := by
  cases op with
  | start constraints => exact .start constraints
  | startWith deviceId source => exact .startWith deviceId rfl
  | pause => exact .pause
  | resume => exact .resume
  | stop => exact .stop
  | step => exact .step

/-- A request is the same without numbers. -/
theorem requests_numbered (r : Request κ) : (erasing σ κ δ ω).Requests r.numbered r := by
  cases r with
  | act op => exact .act (ops_numbered op)
  | run limit fuel i => exact .run limit fuel i

section

variable (catalog : Catalog) (settings : PipelineSettings)
  (sourceOf : SourceSettings → Except AcquisitionError κ) (detector : δ) (renderer : Renderer σ)

/-- Nothing was done with the sources of a new pipeline. -/
theorem new_attended (w : ω) :
    Attended (σ := σ) { catalog, settings, sourceOf := numbering sourceOf, detector, renderer }
      ({ world := w } : Ledger ω) :=
  ⟨fun _ _ h => number?_numbering h, none, .none, .nil⟩

/-- A new pipeline is the same without numbers. -/
theorem new_erasing : (erasing σ κ δ ω).Pipelines
    { catalog, settings, sourceOf := numbering sourceOf, detector, renderer }
    { catalog, settings, sourceOf, detector, renderer } :=
  ⟨rfl, rfl, both_numbering sourceOf, rfl, rfl, .none, rfl, rfl⟩

end

variable [FrameSource κ ω Float]

/-- Giving up a pipeline does to its source what ending the session does. -/
theorem release_eq (p : Pipeline σ κ δ) (w : ω) : p.release w = (p.stop w).2 := by
  unfold release stop
  rcases p.session with _ | s
  · rfl
  · rfl

/-- What was taken down before a pipeline is given up stays. -/
theorem log_release (p : Pipeline σ (Numbered κ) δ) (l : Ledger ω) :
    l.log <+: (p.release l).log := by
  unfold release
  rcases p.session with _ | ⟨deviceId, constraints, ⟨source, _ | n⟩, _ | _⟩
  · exact List.prefix_rfl
  · exact List.prefix_append _ _
  · exact List.prefix_rfl
  · exact List.prefix_append _ _
  · exact List.prefix_rfl

variable [Surface σ] [DetectionService δ ω]

/-- **Histories keep to the law**, runs included. -/
theorem enactAll_attended (requests : List (Request κ)) {p : Pipeline σ (Numbered κ) δ}
    {l : Ledger ω} (h : Attended p l) :
    Attended (enactAll (requests.map Request.numbered) p l).2.1
      (enactAll (requests.map Request.numbered) p l).2.2 := by
  refine enactAll_keeps (I := Attended) (H := fun source => source.number? = none)
    (fun hop hp hact => perform_attended hop hp hact) ?_ h
  intro r hr
  obtain ⟨r', -, rfl⟩ := List.mem_map.1 hr
  exact hands_numbered r'

/-- **Without the ledger everything is the same.** -/
theorem enactAll_erasing (requests : List (Request κ)) {p : Pipeline σ (Numbered κ) δ}
    {q : Pipeline σ κ δ} (h : (erasing σ κ δ ω).Pipelines p q) (l : Ledger ω) :
    (erasing σ κ δ ω).After (· = ·) (enactAll (requests.map Request.numbered) p l)
      (enactAll requests q l.world) := by
  have hrequests : List.Forall₂ (erasing σ κ δ ω).Requests (requests.map Request.numbered)
      requests := by
    induction requests with
    | nil => exact .nil
    | cons r rs ih => exact .cons (requests_numbered r) ih
  obtain ⟨hreplies, hpipelines, hworld⟩ :=
    Likeness.enactAll erasing_lawful hrequests h (rfl : l.world = l.world)
  exact ⟨Likeness.replies_eq (fun _ _ => id) hreplies, hpipelines, hworld⟩

/-- Whatever is asked of a new pipeline before it is given up, and whenever its sources cannot be
connected or have no frame: its sources are well kept.  They are those of what happens without the
ledger, and a session that has stopped its source does not stop it again. -/
theorem sources_well_kept (catalog : Catalog) (settings : PipelineSettings)
    (sourceOf : SourceSettings → Except AcquisitionError κ) (detector : δ) (renderer : Renderer σ)
    (requests : List (Request κ)) (w : ω) :
    let watched := enactAll (requests.map Request.numbered)
      { catalog, settings, sourceOf := numbering sourceOf, detector, renderer }
      ({ world := w } : Ledger ω)
    let seen := enactAll requests { catalog, settings, sourceOf, detector, renderer } w
    WellKept (watched.2.1.release watched.2.2).log ∧
      watched.2.2.log <+: (watched.2.1.release watched.2.2).log ∧
      (watched.1, watched.2.1.plain, watched.2.2.world) = seen ∧
      (watched.2.1.release watched.2.2).world = seen.2.1.release seen.2.2 ∧
      ∀ (s : Session (Numbered κ)) (l : Ledger ω), (s.stop l).1.stop (s.stop l).2 = s.stop l := by
  intro watched seen
  have hattended : Attended watched.2.1 watched.2.2 :=
    enactAll_attended requests (new_attended catalog settings sourceOf detector renderer w)
  have herasing : (erasing σ κ δ ω).After (· = ·) watched seen :=
    enactAll_erasing requests (new_erasing catalog settings sourceOf detector renderer) _
  have hreleased := Likeness.stop erasing_lawful herasing.pipelines herasing.world
  have htrail := stop_trail hattended
  rw [← release_eq] at htrail
  refine ⟨htrail.wellKept, ?_, ?_, ?_, Session.stop_stop⟩
  · exact log_release watched.2.1 watched.2.2
  · have hworld : watched.2.2.world = seen.2.2 := herasing.world
    rw [show watched.1 = seen.1 from herasing.answer, plain_eq herasing.pipelines, hworld]
  · rw [release_eq, release_eq]
    exact hreleased.2

end Pipeline

end Lookout
