import Lookout.Proofs.Pipeline.Lifecycle
/-!
# How a run is conducted

What a run does with the commands that it is given is said by the laws of its course (`Conducted`).
Here they are put together with what holds of every pipeline that was reached by a history of
requests.

* **A run leaves nothing behind**: where it returns there is no session, nothing is paused, the
  stream clock is as it was at the beginning, and no source is open.  That the stream clock of a
  pipeline without a session is unset (`Settled`) is an invariant of the operations.
* **A run counts its frames**: the number that it gives is that of the iterations that gave back an
  account of a frame (`framesIn`).
-/

namespace Lookout.Pipeline

variable {σ κ δ ω : Type} [FrameSource κ ω Float]

/-! ### Pipelines without a session -/

/-- Without a session nothing is paused and the stream clock is unset. -/
def Settled (p : Pipeline σ κ δ) : Prop :=
  p.session = none → p.paused = false ∧ p.renderer.clock = .reset

/-- The end of a session unsets the stream clock. -/
theorem clock_stop {p : Pipeline σ κ δ} (h : p.Settled) (w : ω) :
    (p.stop w).1.renderer.clock = .reset := by
  unfold stop
  rcases hsession : p.session with _ | s
  · exact (h hsession).2
  · rfl

theorem stop_settled {p : Pipeline σ κ δ} (h : p.Settled) (w : ω) : (p.stop w).1.Settled :=
  fun _ => ⟨(p.session_stop w).2, clock_stop h w⟩

/-- A session in place of another, or none. -/
theorem restart_settled {p : Pipeline σ κ δ} (h : p.Settled) (deviceId : String)
    (constraints : Constraints) (source : κ) (w : ω) :
    (p.restart deviceId constraints source w).2.1.Settled := by
  have hstop := stop_settled h w
  unfold restart
  rcases Session.start deviceId constraints source (p.stop w).2 with ⟨e | s, v⟩
  · exact hstop
  · intro hnone
    cases hnone

variable [Surface σ] [DetectionService δ ω]

theorem step_settled {p q : Pipeline σ κ δ} {w v : ω}
    {outcome : Except AcquisitionError (Option IterationReport)} (h : p.Settled)
    (hstep : p.step w = .ok (outcome, q, v)) : q.Settled := by
  rcases hrunning : p.isRunning with _ | _
  · rw [step_of_idle hrunning] at hstep
    cases hstep
    exact h
  · obtain ⟨s, s', w', -, ⟨e, -, -, hstop⟩ | ⟨frame, report, -, -, hprocess⟩⟩ :=
      step_cases hrunning hstep
    · have hwaited : Settled { p with session := some s' } := fun hnone => by cases hnone
      have hstopped := stop_settled hwaited w'
      rw [hstop] at hstopped
      exact hstopped
    · intro hnone
      rw [(process_keeps hprocess).1] at hnone
      cases hnone

/-- Operations keep it. -/
theorem perform_settled {op : Op κ} {p q : Pipeline σ κ δ} {w v : ω} {answer : Answer}
    (h : p.Settled) (hact : perform op p w = .ok (answer, q, v)) : q.Settled := by
  rcases perform_cases hact with ⟨rfl, -⟩ | ⟨rfl, -⟩ | hstop |
    ⟨deviceId, constraints, source, hrestart, -⟩ | ⟨outcome, hstep⟩
  · intro hnone
    obtain ⟨hpaused, hclock⟩ := h hnone
    refine ⟨?_, hclock⟩
    show (p.paused || p.session.isSome) = false
    rw [hpaused, show p.session = none from hnone]
    rfl
  · intro hnone
    obtain ⟨hpaused, hclock⟩ := h hnone
    refine ⟨?_, hclock⟩
    show (p.paused && p.session.isNone) = false
    rw [hpaused]
    rfl
  · have hstopped := stop_settled h w
    rw [hstop] at hstopped
    exact hstopped
  · have hrestarted := restart_settled h deviceId constraints source w
    rw [hrestart] at hrestarted
    exact hrestarted
  · exact step_settled h hstep

/-- So do histories. -/
theorem enactAll_settled (requests : List (Request κ)) {p : Pipeline σ κ δ} (h : p.Settled)
    (w : ω) : (enactAll requests p w).2.1.Settled := by
  refine enactAll_keeps (I := fun p (_ : ω) => p.Settled) (H := fun _ => True) ?_ ?_ h
  · intro op p q w v answer _ hp hact
    exact perform_settled hp hact
  · intro r _
    exact r.hands_of_forall fun _ => trivial

/-! ### The frames of a run -/

/-- How many of the operations gave back the account of a frame. -/
def framesIn (history : List (Op κ × Answer)) : Nat :=
  history.countP fun
    | (_, .stepped (.ok (some _))) => true
    | _ => false

section

omit [FrameSource κ ω Float] [Surface σ] [DetectionService δ ω]

theorem framesIn_frame (op : Op κ) (report : IterationReport) (rest : List (Op κ × Answer)) :
    framesIn ((op, .stepped (.ok (some report))) :: rest) = framesIn rest + 1 :=
  List.countP_cons_of_pos rfl

theorem framesIn_done (op : Op κ) (rest : List (Op κ × Answer)) :
    framesIn ((op, .done) :: rest) = framesIn rest := rfl

theorem framesIn_opened (op : Op κ) (outcome : Except AcquisitionError Unit)
    (rest : List (Op κ × Answer)) :
    framesIn ((op, .opened outcome) :: rest) = framesIn rest := rfl

end

variable {p q p' : Pipeline σ κ δ} {w v w' : ω} {course before : List Deed}

/-- A command gives back no account of a frame. -/
theorem framesIn_command {c : Command} {answer : Answer}
    (h : perform c.op p w = .ok (answer, p', w')) (rest : List (Op κ × Answer)) :
    framesIn ((c.op, answer) :: rest) = framesIn rest := by
  cases c with
  | start constraints =>
    rcases hstart : p.start constraints w with fault | ⟨outcome, q', v'⟩
    · simp only [Command.op, perform, hstart, bind, Except.bind] at h
      cases h
    · simp only [Command.op, perform, hstart, bind, Except.bind] at h
      obtain rfl : .opened outcome = answer := (Prod.mk.inj (Except.ok.inj h)).1
      exact framesIn_opened _ outcome rest
  | pause =>
    obtain rfl : .done = answer := (Prod.mk.inj (Except.ok.inj h)).1
    exact framesIn_done _ rest
  | resume =>
    obtain rfl : .done = answer := (Prod.mk.inj (Except.ok.inj h)).1
    exact framesIn_done _ rest
  | stop =>
    obtain rfl : .done = answer := (Prod.mk.inj (Except.ok.inj h)).1
    exact framesIn_done _ rest

/-- Every iteration of a course, as it is made, renders a frame. -/
def AllRendered (p : Pipeline σ κ δ) (w : ω) (course : List Deed) : Prop :=
  ∀ before after, course = before ++ .iterated :: after →
    ∃ q v, carryOut (asked before) p w = .ok (q, v) ∧
      ∃ report q' v', q.step v = .ok (.ok (some report), q', v')

/-- What is so from the beginning is so after the first operation. -/
theorem AllRendered.tail {d : Deed} {op : Op κ} {answer : Answer}
    (h : AllRendered p w (d :: course)) (hop : d.op? = some op)
    (hact : perform op p w = .ok (answer, p', w')) : AllRendered p' w' course := by
  intro before after hcourse
  obtain ⟨q, v, hcarried, hstep⟩ := h (d :: before) after (congrArg (d :: ·) hcourse)
  have hasked : (asked (d :: before) : List (Op κ)) = op :: asked before :=
    List.filterMap_cons_some hop
  rw [hasked, carryOut_cons_of_ok hact] at hcarried
  exact ⟨q, v, hcarried, hstep⟩

/-- If every iteration renders a frame, there are as many frames as iterations. -/
theorem framesIn_of_allRendered (h : AllRendered p w course)
    (hcarried : carryOut (asked course) p w = .ok (q, v)) :
    framesIn (runWith perform (asked course) p w).1 = iterations course := by
  induction course generalizing p w with
  | nil => rfl
  | cons d course ih =>
    cases d with
    | arrived batch =>
      have htail : AllRendered p w course := by
        intro before after hcourse
        exact h (.arrived batch :: before) after (congrArg (_ :: ·) hcourse)
      rw [asked_arrived] at hcarried ⊢
      exact ih htail hcarried
    | took c =>
      rw [asked_took] at hcarried ⊢
      rcases hact : perform c.op p w with fault | ⟨answer, p', w'⟩
      · rw [carryOut_cons_of_error hact] at hcarried
        cases hcarried
      · rw [carryOut_cons_of_ok hact] at hcarried
        unfold runWith
        rw [hact]
        show framesIn ((c.op, answer) :: _) = _
        rw [framesIn_command hact]
        exact ih (h.tail rfl hact) hcarried
    | iterated =>
      rw [asked_iterated] at hcarried ⊢
      obtain ⟨q', v', hnothing, report, p', w', hstep⟩ := h [] course rfl
      cases hnothing
      have hact : perform .step p w = .ok (.stepped (.ok (some report)), p', w') := by
        show (p.step w >>= _) = _
        rw [hstep]
        rfl
      rw [carryOut_cons_of_ok hact] at hcarried
      unfold runWith
      rw [hact]
      show framesIn ((.step, .stepped (.ok (some report))) :: _) = _
      rw [framesIn_frame, ih (h.tail rfl hact) hcarried, iterations_iterated]
    | closed =>
      rw [asked_closed] at hcarried ⊢
      have hact : perform .stop p w = .ok (.done, (p.stop w).1, (p.stop w).2) := rfl
      rw [carryOut_cons_of_ok hact] at hcarried
      unfold runWith
      rw [hact]
      show framesIn ((.stop, .done) :: _) = _
      rw [framesIn_done]
      exact ih (h.tail rfl hact) hcarried

/-- A run that finishes has rendered as many frames as it says. -/
theorem Conducted.framesIn_eq {fuel n : Nat} {i j : Inbox}
    {r : List Deed × Except Fault (RunEnd × Pipeline σ κ δ × Inbox × ω)}
    (h : Conducted fuel 0 p i w r) (hend : r.2 = .ok (.finished n, q, j, v)) :
    n = framesIn (runWith perform (asked r.1) p w).1 := by
  have heffect := h.effect
  rw [hend] at heffect
  have hrendered : AllRendered p w r.1 := by
    intro before after hcourse
    obtain ⟨-, -, q', v', hcarried, -, hmade⟩ := h.iterations before after hcourse
    refine ⟨q', v', hcarried, ?_⟩
    cases hmade with
    | rendered report q'' v'' hstep => exact ⟨report, q'', v'', hstep⟩
    | lost e q'' i'' v'' hstep hlast hover =>
      rw [hend] at hover
      cases (Prod.mk.inj (Except.ok.inj hover)).1
    | stopped fault hstep hlast hover =>
      rw [hend] at hover
      cases hover
  rw [framesIn_of_allRendered hrendered heffect, h.finished n q j v hend, Nat.zero_add]

/-! ### After a run -/

/-- A run that returns is a request that was answered. -/
theorem enact_run {limit : Option Nat} {fuel : Nat} {i j : Inbox} {how : RunEnd}
    (h : (runNoting limit fuel 0 p i w).2 = .ok (how, q, j, v)) :
    enact (.run limit fuel i) p w = (.ok (.ended how j), q, v) := by
  unfold enact
  rcases hrun : runNoting limit fuel 0 p i w with ⟨course, outcome⟩
  rw [hrun] at h
  obtain rfl : outcome = .ok (how, q, j, v) := h
  simp only [hrun]

/-- Where a run returns, the stream clock is unset. -/
theorem clock_of_run {limit : Option Nat} {fuel : Nat} {i j : Inbox} {how : RunEnd}
    (h : p.Settled) (hrun : (runNoting limit fuel 0 p i w).2 = .ok (how, q, j, v))
    (hover : q.session = none) : q.renderer.clock = .reset := by
  have hend := enactAll_settled [.run limit fuel i] h w
  unfold enactAll at hend
  rw [enact_run hrun] at hend
  exact (hend hover).2

/-- Where a run returns, no source is open, and each that was connected was stopped once. -/
theorem sources_of_run {limit : Option Nat} {fuel : Nat} {i j : Inbox} {how : RunEnd}
    {p q : Pipeline σ (Numbered κ) δ} {l m : Ledger ω} (h : Attended p l)
    (hrun : (runNoting limit fuel 0 p i l).2 = .ok (how, q, j, m)) (hover : q.session = none) :
    (∀ n, ¬ IsOpen n m.log) ∧
      ∀ n, .connected n true ∈ m.log → m.log.count (.stopped n) = 1 := by
  have hend : Attended q m := by
    have hkeeps := enactAll_attended [.run limit fuel i] h
    unfold enactAll at hkeeps
    simp only [List.map, Request.numbered, enact_run hrun] at hkeeps
    exact hkeeps
  exact hend.closed hover

/-- Whatever was asked of a new pipeline before: a run under commands is conducted by them, as its
course has it, and unless it is cut off it is the same if more iterations might be made; if it
finishes it gives the number of the frames that it has rendered; and wherever it returns there is no
session, nothing is paused, the stream clock is unset and all sources that were connected are
stopped. -/
theorem run_is_conducted (catalog : Catalog) (settings : PipelineSettings)
    (sourceOf : SourceSettings → Except AcquisitionError κ) (detector : δ) (surface : σ)
    (style : OverlayStyle) (readouts : Readouts) (requests : List (Request κ)) (w : ω)
    (limit : Option Nat) (fuel : Nat) (i : Inbox) :
    let renderer : Renderer σ := { surface, style, readouts }
    let seen := enactAll requests { catalog, settings, sourceOf, detector, renderer } w
    let watched := enactAll (requests.map Request.numbered)
      { catalog, settings, sourceOf := numbering sourceOf, detector, renderer }
      ({ world := w } : Ledger ω)
    let r := runNoting limit fuel 0 seen.2.1 i seen.2.2
    r.2 = run limit fuel 0 seen.2.1 i seen.2.2 ∧
      Conducted fuel 0 seen.2.1 i seen.2.2 r ∧
      ((∀ n q j v, r.2 ≠ .ok (.unfinished n, q, j, v)) →
        ∀ more, runNoting limit (fuel + more) 0 seen.2.1 i seen.2.2 = r) ∧
      (∀ n q j v, r.2 = .ok (.finished n, q, j, v) →
        n = framesIn (runWith perform (asked r.1) seen.2.1 seen.2.2).1) ∧
      ∀ how q j v, r.2 = .ok (how, q, j, v) → how.isReturn = true →
        q.session = none ∧ q.paused = false ∧ q.renderer.clock = .reset ∧
          ∃ q' m, run limit fuel 0 watched.2.1 i watched.2.2 = .ok (how, q', j, m) ∧
            q'.plain = q ∧ m.world = v ∧ (∀ n, ¬ IsOpen n m.log) ∧
            ∀ n, .connected n true ∈ m.log → m.log.count (.stopped n) = 1 := by
  intro renderer seen watched r
  have hconducted : Conducted fuel 0 seen.2.1 i seen.2.2 r := runNoting_conducted _ _ _ _ _ _
  have hsettled : seen.2.1.Settled := enactAll_settled requests (fun _ => ⟨rfl, rfl⟩) w
  have hattended : Attended watched.2.1 watched.2.2 :=
    enactAll_attended requests (new_attended catalog settings sourceOf detector renderer w)
  have herasing : (erasing σ κ δ ω).After (· = ·) watched seen :=
    enactAll_erasing requests (new_erasing catalog settings sourceOf detector renderer) _
  refine ⟨runNoting_snd _ _ _ _ _ _, hconducted, ?_, ?_, ?_⟩
  · intro hend more
    exact runNoting_add hend more
  · intro n q j v hend
    exact hconducted.framesIn_eq hend
  · intro how q j v hend hreturn
    obtain ⟨hsession, hpaused⟩ := hconducted.ended how q j v hend hreturn
    refine ⟨hsession, hpaused, clock_of_run hsettled hend hsession, ?_⟩
    -- The same run with numbered sources.
    have hsame := (Likeness.runNoting erasing_lawful limit fuel 0 herasing.pipelines
      herasing.world i).outcome
    rw [show (runNoting limit fuel 0 seen.2.1 i seen.2.2).2 = _ from hend] at hsame
    rcases hrun : (runNoting limit fuel 0 watched.2.1 i watched.2.2).2 with
      fault | ⟨how', q', j', m⟩
    · rw [hrun] at hsame
      cases hsame
    · rw [hrun] at hsame
      cases hsame with
      | come h =>
        obtain ⟨rfl, hq, rfl, hm⟩ := h
        have hplain : q'.plain = q := plain_eq hq
        have hover : q'.session = none := by
          rw [← hplain] at hsession
          exact Option.map_eq_none_iff.1 hsession
        obtain ⟨hclosed, hstopped⟩ := sources_of_run hattended hrun hover
        refine ⟨q', m, ?_, hplain, hm, hclosed, hstopped⟩
        rw [← runNoting_snd]
        exact hrun

end Lookout.Pipeline
