import Lookout.Proofs.Pipeline.Journal
/-!
# What an operation comes to

Carrying out an operation can come to a handful of things (`Pipeline.Came`): nothing but a pause or
its end, the end of the session, another session, or an iteration that is not made, that has no
frame or that shows one.  Each is said with what the operation gives back, what a journal takes down
meanwhile, and the pipeline and the world that it leaves; an operation that returns has come to one
of them (`Pipeline.came`).

The end of a session leaves the same pipeline in every world (`Pipeline.ended`), which is why an
operation that fails leaves the pipeline that its end would have left.
-/

namespace Lookout.Pipeline

variable {σ κ δ ω : Type}

/-! ### The end of a session -/

/-- The pipeline when its session is ended. -/
def ended (p : Pipeline σ κ δ) : Pipeline σ κ δ :=
  { p with
    renderer := if p.session.isSome then p.renderer.resetClock else p.renderer
    session := none
    paused := false }

/-- The end of a session does not depend on the world. -/
theorem stop_fst [FrameSource κ ω Float] (p : Pipeline σ κ δ) (w : ω) : (p.stop w).1 = p.ended := by
  unfold stop ended
  rcases p.session with _ | s
  · rfl
  · rfl

/-- Nor does it depend on the session. -/
theorem ended_session {p : Pipeline σ κ δ} (h : p.session.isSome = true) (s : Session κ) :
    { p with session := some s }.ended = p.ended := by
  unfold ended
  rw [h]
  rfl

/-- The end of a session leaves what is shown as it is. -/
theorem ended_renderer (p : Pipeline σ κ δ) :
    p.ended.renderer.surface = p.renderer.surface ∧
      p.ended.renderer.readouts = p.renderer.readouts := by
  unfold ended
  rcases p.session with _ | s
  · exact ⟨rfl, rfl⟩
  · exact ⟨rfl, rfl⟩

/-! ### What is taken down -/

section

variable [FrameSource κ ω Float] [Surface σ] [DetectionService δ ω]

/-- What an iteration asks of the source and of the service. -/
def iterationEvents (p : Pipeline σ κ δ) (w : ω) : List Event :=
  match p.paused, p.session with
  | false, some s =>
    match s.next w with
    | (.tooLarge, _, _) => []
    | (.ok (.error e), _, _) => if s.stopped then [] else [.asked (.error e)]
    | (.ok (.ok frame), s, w) =>
      .asked (.ok frame) :: ({ p with session := some s }.fit frame).requests frame w
  | _, _ => []

/-- What an operation asks of the source and of the service: nothing, unless it is an iteration. -/
def Op.events (op : Op κ) (p : Pipeline σ κ δ) (w : ω) : List Event :=
  match op with
  | .step => p.iterationEvents w
  | _ => []

omit [FrameSource κ ω Float] in
/-- Dealing with a frame renders it, and nothing else is done than that the size of the surface is
settled before and the service is asked. -/
theorem process_renders {p q : Pipeline σ κ δ} {frame : Frame Float} {w v : ω}
    {report : IterationReport} (h : p.process frame w = .ok (report, q, v)) :
    (∃ overlay rendered,
        (p.fit frame).renderer.render frame overlay = .ok (rendered, q.renderer) ∧
          report.timestamp = frame.timestamp) ∧
      q = { p.fit frame with detector := q.detector, renderer := q.renderer } := by
  have hasked : ∃ overlay status detector v', (p.fit frame).detect frame w =
      (overlay, status, { p.fit frame with detector }, v') := by
    generalize p.fit frame = fitted
    rw [detect_eq]
    rcases Snapshot.take frame.picture (Surface.size fitted.renderer.surface).1
      (Surface.size fitted.renderer.surface).2 fitted.settings.format with e | snapshot
    · exact ⟨_, _, fitted.detector, _, rfl⟩
    · exact ⟨_, _, _, _, rfl⟩
  obtain ⟨overlay, status, detector, v', hasked⟩ := hasked
  unfold process at h
  rw [hasked] at h
  rcases hrender : (p.fit frame).renderer.render frame overlay with fault | ⟨rendered, renderer⟩
  · simp only [hrender, bind, Except.bind] at h
    cases h
  · simp only [hrender, bind, Except.bind] at h
    cases h
    exact ⟨⟨overlay, rendered, hrender, rfl⟩, rfl⟩

omit [FrameSource κ ω Float] in
/-- Dealing with a frame is taken down by what is sent to the service. -/
theorem process_journal (p : Pipeline σ κ δ) (frame : Frame Float) (j : Journal ω) :
    p.process frame j = (p.process frame j.world).map fun r =>
      (r.1, r.2.1, j.advance r.2.2 ((p.fit frame).requests frame j.world)) := by
  unfold process
  rw [detect_journal]
  rcases (p.fit frame).detect frame j.world with ⟨overlay, status, asked, w⟩
  simp only [bind, Except.bind]
  rcases asked.renderer.render frame overlay with fault | ⟨report, renderer⟩
  · rfl
  · rfl

omit [Surface σ] [DetectionService δ ω] in
/-- A session that has stopped its source has no frame. -/
theorem stopped_of_next {s s' : Session κ} {w w' : ω} {frame : Frame Float}
    (h : s.next w = (.ok (.ok frame), s', w')) : s.stopped = false := by
  rcases hstopped : s.stopped with _ | _
  · rfl
  · unfold Session.next at h
    rw [if_pos hstopped] at h
    cases h

/-- Nothing is asked while no frames are taken. -/
theorem iterationEvents_of_idle {p : Pipeline σ κ δ} (h : p.isRunning = false) (w : ω) :
    p.iterationEvents w = [] := by
  unfold isRunning at h
  unfold iterationEvents
  rcases hpaused : p.paused with _ | _
  · rcases hsession : p.session with _ | s
    · rfl
    · rw [hpaused, hsession] at h
      cases h
  · rfl

/-- The source is asked for a frame, and the service about it if there is one. -/
theorem iterationEvents_of_running {p : Pipeline σ κ δ} {s : Session κ}
    (hsession : p.session = some s) (hpaused : p.paused = false) (w : ω) :
    p.iterationEvents w = match s.next w with
      | (.tooLarge, _, _) => []
      | (.ok (.error e), _, _) => if s.stopped then [] else [.asked (.error e)]
      | (.ok (.ok frame), s, w) =>
        .asked (.ok frame) :: ({ p with session := some s }.fit frame).requests frame w := by
  obtain ⟨catalog, settings, sourceOf, detector, renderer, session, paused, fitSurface⟩ := p
  cases hsession
  cases hpaused
  rfl

/-- An iteration is taken down by what it asks. -/
theorem step_journal (p : Pipeline σ κ δ) (j : Journal ω) :
    p.step j = (p.step j.world).map fun r =>
      (r.1, r.2.1, j.advance r.2.2 (p.iterationEvents j.world)) := by
  rcases hrunning : p.isRunning with _ | _
  · rw [step_of_idle hrunning, step_of_idle hrunning, iterationEvents_of_idle hrunning]
    simp only [Except.map, Journal.advance_nil]
  · obtain ⟨s, hsession, hpaused⟩ := p.isRunning_iff.1 hrunning
    rw [step_of_running hsession hpaused, step_of_running hsession hpaused,
      iterationEvents_of_running hsession hpaused, s.next_journal]
    rcases hnext : s.next j.world with ⟨_ | e | frame, s', w'⟩
    · rfl
    · simp only [Except.map, stop_journal]
      rfl
    · have hasked :
          (if s.stopped then [] else Event.given (.ok (.ok frame))) = [.asked (.ok frame)] := by
        rw [stopped_of_next hnext]
        rfl
      dsimp only
      rw [hasked, process_journal]
      show Except.map _ (Except.map _ (process { p with session := some s' } frame w')) =
        Except.map _ (Except.map _ (process { p with session := some s' } frame w'))
      rcases process { p with session := some s' } frame w' with fault | ⟨report, q, v⟩
      · rfl
      · simp only [Except.map, Journal.advance_advance]
        rfl

/-- **An operation is taken down by what it asks of the source and of the service.** -/
theorem perform_takes_down (op : Op κ) (p : Pipeline σ κ δ) (j : Journal ω) :
    perform op p j = (perform op p j.world).map fun r =>
      (r.1, r.2.1, j.advance r.2.2 (op.events p j.world)) := by
  by_cases hop : op = .step
  · subst hop
    show (p.step j >>= _) = Except.map _ (p.step j.world >>= _)
    rw [step_journal]
    rcases p.step j.world with fault | ⟨outcome, q, v⟩
    · rfl
    · rfl
  · have hnothing : op.events p j.world = [] := by
      cases op with
      | step => exact absurd rfl hop
      | start _ => rfl
      | startWith _ _ => rfl
      | pause => rfl
      | resume => rfl
      | stop => rfl
    rw [perform_journal hop, hnothing]
    simp only [Journal.advance_nil]

end

/-! ### Operations that return -/

/-- An operation asks for a session over a source, that of a device or one that is handed over. -/
inductive Op.Wants (p : Pipeline σ κ δ) : Op κ → String → Constraints → κ → Prop where
  /-- A device that satisfies a request. -/
  | device {constraints : Constraints} {id : String} {source : κ}
    (h : deviceFor p.catalog p.sourceOf p.settings.rate constraints = .ok (.ok (id, source))) :
    Wants p (.start constraints) id constraints source
  /-- A source that is handed over. -/
  | source (deviceId : String) (source : κ) :
    Wants p (.startWith deviceId source) deviceId {} source

variable [FrameSource κ ω Float] [Surface σ] [DetectionService δ ω]

/-- What an operation has come to: what it gave back, what was taken down, and the pipeline and the
world then. -/
inductive Came (p : Pipeline σ κ δ) (w : ω) :
    Op κ → Answer → List Event → Pipeline σ κ δ → ω → Prop where
  /-- No more frames are taken for now. -/
  | paused : Came p w .pause .done [] p.pause w
  /-- Frames are taken again. -/
  | resumed : Came p w .resume .done [] p.resume w
  /-- The session is ended. -/
  | stopped : Came p w .stop .done [] p.ended (p.stop w).2
  /-- There is no device or no source for a request. -/
  | unmatched {constraints : Constraints} {e : AcquisitionError}
    (h : deviceFor p.catalog p.sourceOf p.settings.rate constraints = .ok (.error e)) :
    Came p w (.start constraints) (.opened (.error e)) [] p.ended (p.stop w).2
  /-- A source cannot be connected. -/
  | unconnected {op : Op κ} {deviceId : String} {constraints : Constraints} {source : κ}
    {e : AcquisitionError} {v : ω} (hop : op.Wants p deviceId constraints source)
    (h : Session.start deviceId constraints source (p.stop w).2 = (.error e, v)) :
    Came p w op (.opened (.error e)) [] p.ended v
  /-- A session is opened. -/
  | opened {op : Op κ} {deviceId : String} {constraints : Constraints} {source : κ}
    {s : Session κ} {v : ω} (hop : op.Wants p deviceId constraints source)
    (h : Session.start deviceId constraints source (p.stop w).2 = (.ok s, v)) :
    Came p w op (.opened (.ok ())) [] (p.ended.attach s) v
  /-- No iteration is made. -/
  | idle (h : p.isRunning = false) : Came p w .step (.stepped (.ok none)) [] p w
  /-- There is no frame, and the session ends. -/
  | lost {s s' : Session κ} {w' : ω} {e : AcquisitionError} (hsession : p.session = some s)
    (hpaused : p.paused = false) (h : s.next w = (.ok (.error e), s', w')) :
    Came p w .step (.stepped (.error e)) (if s.stopped then [] else [.asked (.error e)])
      p.ended (s'.stop w').2
  /-- A frame is dealt with. -/
  | shown {s s' : Session κ} {w' v : ω} {frame : Frame Float} {report : IterationReport}
    {q : Pipeline σ κ δ} (hsession : p.session = some s) (hpaused : p.paused = false)
    (h : s.next w = (.ok (.ok frame), s', w'))
    (hprocess : process { p with session := some s' } frame w' = .ok (report, q, v)) :
    Came p w .step (.stepped (.ok (some report)))
      (.asked (.ok frame) :: ({ p with session := some s' }.fit frame).requests frame w') q v

variable {p q : Pipeline σ κ δ} {w v : ω}

/-- What asking for a session over a source has come to. -/
theorem came_of_wants {op : Op κ} {deviceId : String} {constraints : Constraints} {source : κ}
    (hop : op.Wants p deviceId constraints source) :
    Came p w op (.opened (p.restart deviceId constraints source w).1) []
      (p.restart deviceId constraints source w).2.1
      (p.restart deviceId constraints source w).2.2 := by
  unfold restart
  rw [stop_fst]
  rcases hstart : Session.start deviceId constraints source (p.stop w).2 with ⟨e | s, v⟩
  · exact .unconnected hop hstart
  · exact .opened hop hstart

/-- What an iteration has come to. -/
theorem came_of_step {outcome : Except AcquisitionError (Option IterationReport)}
    (h : p.step w = .ok (outcome, q, v)) :
    Came p w .step (.stepped outcome) (p.iterationEvents w) q v := by
  rcases hrunning : p.isRunning with _ | _
  · rw [step_of_idle hrunning] at h
    cases h
    rw [iterationEvents_of_idle hrunning]
    exact .idle hrunning
  · obtain ⟨s, hsession, hpaused⟩ := p.isRunning_iff.1 hrunning
    rw [step_of_running hsession hpaused] at h
    rw [iterationEvents_of_running hsession hpaused]
    rcases hnext : s.next w with ⟨_ | e | frame, s', w'⟩
    · rw [hnext] at h
      cases h
    · rw [hnext] at h
      obtain ⟨rfl, hstop⟩ := Prod.mk.inj (Except.ok.inj h)
      have hended : p.ended = q := by
        rw [← ended_session (Option.isSome_of_mem hsession) s', ← stop_fst _ w', hstop]
      have hworld : (s'.stop w').2 = v := congrArg Prod.snd hstop
      rw [← hended, ← hworld]
      exact .lost hsession hpaused hnext
    · rcases hprocess : process { p with session := some s' } frame w' with
        fault | ⟨report, q', v'⟩
      · simp only [hnext, hprocess] at h
        cases h
      · simp only [hnext, hprocess] at h
        cases h
        exact .shown hsession hpaused hnext hprocess

/-- **An operation that returns has come to one of these.** -/
theorem came {op : Op κ} {answer : Answer} (h : perform op p w = .ok (answer, q, v)) :
    Came p w op answer (op.events p w) q v := by
  cases op with
  | start constraints =>
    rw [perform_start] at h
    rcases hdevice : deviceFor p.catalog p.sourceOf p.settings.rate constraints with
      fault | e | ⟨id, source⟩
    · rw [hdevice] at h
      cases h
    · rw [hdevice] at h
      cases h
      rw [stop_fst]
      exact .unmatched hdevice
    · rw [hdevice] at h
      cases h
      exact came_of_wants (.device hdevice)
  | startWith deviceId source =>
    rw [perform_startWith] at h
    cases h
    exact came_of_wants (.source deviceId source)
  | pause =>
    cases h
    exact .paused
  | resume =>
    cases h
    exact .resumed
  | stop =>
    obtain ⟨rfl, hstop⟩ := Prod.mk.inj (Except.ok.inj h)
    have hended : p.ended = q := (p.stop_fst w).symm.trans (congrArg Prod.fst hstop)
    have hworld : (p.stop w).2 = v := congrArg Prod.snd hstop
    rw [← hended, ← hworld]
    exact .stopped
  | step =>
    rcases hstep : p.step w with fault | ⟨outcome, q', v'⟩
    · simp only [perform, hstep, bind, Except.bind] at h
      cases h
    · simp only [perform, hstep, bind, Except.bind] at h
      cases h
      exact came_of_step hstep

end Lookout.Pipeline
