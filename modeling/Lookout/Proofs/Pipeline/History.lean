import Lookout.Pipeline
/-!
# What is asked of a pipeline

A history of a pipeline is a list of operations (`Pipeline.Op`): sessions are started over devices
of the catalog or over any source, paused, resumed and stopped, and iterations are made, in any
order.  `Pipeline.perform` carries out one operation and says what it gave back, and
`Pipeline.runWith` carries out a list of them.

The end of a session leaves the surface as it is (`surface_stop`), and a session that was started
has a source that was not stopped (`stopped_of_start`, `stopped_next`).  Which source a request for
a device is given depends on the catalog and the settings alone (`deviceFor`), and both ways to
start a session come down to one (`Pipeline.restart`, by `perform_start` and
`perform_startWith`).
-/

namespace Lookout.Pipeline

/-- What can be asked of a pipeline, with sources of type `κ`. -/
inductive Op (κ : Type) where
  /-- Start a session over a device. -/
  | start (constraints : Constraints)
  /-- Start a session over a source. -/
  | startWith (deviceId : String) (source : κ)
  /-- Take no more frames for now. -/
  | pause
  /-- Take frames again. -/
  | resume
  /-- End the session. -/
  | stop
  /-- Make an iteration. -/
  | step

/-- What an operation gives back. -/
inductive Answer where
  /-- Nothing. -/
  | done
  /-- Whether there is a session now. -/
  | opened (outcome : Except AcquisitionError Unit)
  /-- The account of an iteration, if one was made. -/
  | stepped (outcome : Except AcquisitionError (Option IterationReport))

variable {σ κ δ ω : Type} [FrameSource κ ω Float]

/-! ### Sessions -/

/-- The end of a session leaves the surface as it is. -/
theorem surface_stop (p : Pipeline σ κ δ) (w : ω) :
    (p.stop w).1.renderer.surface = p.renderer.surface := by
  unfold stop
  rcases p.session with _ | s
  · rfl
  · rfl

/-- A session that was started has not stopped its source. -/
theorem stopped_of_start {deviceId : String} {constraints : Constraints}
    {source : κ} {w w' : ω} {s : Session κ}
    (h : Session.start deviceId constraints source w = (.ok s, w')) : s.stopped = false := by
  unfold Session.start at h
  rcases hconnect : FrameSource.connect source w with ⟨e | _, source', w''⟩
  · rw [hconnect] at h
    cases h
  · rw [hconnect] at h
    cases h
    rfl

/-- Waiting for a frame does not stop a source. -/
theorem stopped_next (s : Session κ) (w : ω) : (s.next w).2.1.stopped = s.stopped := by
  unfold Session.next
  by_cases h : s.stopped = true
  · rw [if_pos h]
  · rw [if_neg h]

/-! ### Requests for a device -/

/-- The device that a request is given, by its name and its source. -/
def deviceFor (catalog : Catalog) (sourceOf : SourceSettings → Except AcquisitionError κ)
    (rate : Nat) (constraints : Constraints) :
    Except Fault (Except AcquisitionError (String × κ)) := do
  match ← catalog.resolve constraints with
  | .error e => return .error e
  | .ok device =>
    match sourceOf (Session.settingsOf device rate) with
    | .error e => return .error e
    | .ok source => return .ok (device.device.id, source)

/-- Where there is no device for a request because the program stops, the search of the catalog
stops it. -/
theorem resolve_of_deviceFor_error {catalog : Catalog}
    {sourceOf : SourceSettings → Except AcquisitionError κ} {rate : Nat}
    {constraints : Constraints} {fault : Fault}
    (h : deviceFor catalog sourceOf rate constraints = .error fault) :
    catalog.resolve constraints = .error fault := by
  unfold deviceFor at h
  rcases hresolve : catalog.resolve constraints with fault' | e | device
  · rw [hresolve] at h
    cases h
    rfl
  · rw [hresolve] at h
    cases h
  · rw [hresolve] at h
    rcases hsource : sourceOf (Session.settingsOf device rate) with e | source
    · simp only [bind, Except.bind, hsource] at h
      cases h
    · simp only [bind, Except.bind, hsource] at h
      cases h

/-- The source that a request is given is one that there is for some settings. -/
theorem exists_sourceOf {catalog : Catalog} {sourceOf : SourceSettings → Except AcquisitionError κ}
    {rate : Nat} {constraints : Constraints} {id : String} {source : κ}
    (h : deviceFor catalog sourceOf rate constraints = .ok (.ok (id, source))) :
    ∃ settings, sourceOf settings = .ok source := by
  unfold deviceFor at h
  rcases hresolve : catalog.resolve constraints with fault | e | device
  · rw [hresolve] at h
    cases h
  · rw [hresolve] at h
    cases h
  · rw [hresolve] at h
    rcases hsource : sourceOf (Session.settingsOf device rate) with e | source'
    · simp only [bind, Except.bind, hsource] at h
      cases h
    · simp only [bind, Except.bind, hsource] at h
      cases h
      exact ⟨_, hsource⟩

/-- Opening a device starts a session over its source, whatever the world is. -/
theorem openDevice_eq (catalog : Catalog) (sourceOf : SourceSettings → Except AcquisitionError κ)
    (rate : Nat) (constraints : Constraints) (w : ω) :
    Session.openDevice catalog sourceOf rate constraints w =
      (deviceFor catalog sourceOf rate constraints).map fun
        | .error e => (.error e, w)
        | .ok (id, source) => Session.start id constraints source w := by
  unfold Session.openDevice deviceFor
  rcases catalog.resolve constraints with fault | e | device
  · rfl
  · rfl
  · simp only [bind, Except.bind]
    rcases sourceOf (Session.settingsOf device rate) with e | source
    · rfl
    · rfl

/-- End the session that is there and start one over a source. -/
def restart (p : Pipeline σ κ δ) (deviceId : String) (constraints : Constraints) (source : κ)
    (w : ω) : Except AcquisitionError Unit × Pipeline σ κ δ × ω :=
  match Session.start deviceId constraints source (p.stop w).2 with
  | (.error e, w') => (.error e, (p.stop w).1, w')
  | (.ok s, w') => (.ok (), (p.stop w).1.attach s, w')

/-- Starting a session over a device. -/
theorem start_eq (p : Pipeline σ κ δ) (constraints : Constraints) (w : ω) :
    p.start constraints w =
      (deviceFor p.catalog p.sourceOf p.settings.rate constraints).map fun
        | .error e => (.error e, p.stop w)
        | .ok (id, source) => p.restart id constraints source w := by
  have hstop : (p.stop w).1.catalog = p.catalog ∧ (p.stop w).1.sourceOf = p.sourceOf ∧
      (p.stop w).1.settings = p.settings := by
    unfold stop
    rcases p.session with _ | s
    · exact ⟨rfl, rfl, rfl⟩
    · exact ⟨rfl, rfl, rfl⟩
  obtain ⟨hcatalog, hsourceOf, hsettings⟩ := hstop
  rw [← hcatalog, ← hsourceOf, ← hsettings]
  unfold start restart
  simp only [openDevice_eq]
  rcases deviceFor (p.stop w).1.catalog (p.stop w).1.sourceOf (p.stop w).1.settings.rate
    constraints with fault | e | ⟨id, source⟩
  · rfl
  · rfl
  · simp only [bind, Except.bind, Except.map]
    rcases Session.start id constraints source (p.stop w).2 with ⟨e | s, w'⟩
    · rfl
    · rfl

/-- The end of a session leaves none, and nothing is paused. -/
theorem session_stop (p : Pipeline σ κ δ) (w : ω) :
    (p.stop w).1.session = none ∧ (p.stop w).1.paused = false := by
  unfold stop
  rcases p.session with _ | s
  · exact ⟨rfl, rfl⟩
  · exact ⟨rfl, rfl⟩

/-! ### Iterations -/

/-- Frames are taken from a session that is not paused. -/
theorem isRunning_iff (p : Pipeline σ κ δ) :
    p.isRunning = true ↔ ∃ s, p.session = some s ∧ p.paused = false := by
  unfold isRunning
  rw [Bool.and_eq_true, Bool.not_eq_true', Option.isSome_iff_exists]
  constructor
  · rintro ⟨⟨s, hs⟩, hpaused⟩
    exact ⟨s, hs, hpaused⟩
  · rintro ⟨s, hs, hpaused⟩
    exact ⟨⟨s, hs⟩, hpaused⟩

variable [Surface σ] [DetectionService δ ω]

omit [FrameSource κ ω Float] [DetectionService δ ω] in
/-- The size of the surface has nothing to do with the session. -/
theorem fit_keeps (p : Pipeline σ κ δ) (frame : Frame Float) :
    (p.fit frame).session = p.session ∧ (p.fit frame).paused = p.paused ∧
      (p.fit frame).sourceOf = p.sourceOf := by
  unfold fit
  by_cases hfirst : p.fitSurface = true
  · rw [if_pos hfirst]
    exact ⟨rfl, rfl, rfl⟩
  · rw [if_neg hfirst]
    exact ⟨rfl, rfl, rfl⟩

/-- What is drawn over a frame and how its request went, for an answer of the service. -/
def shown : Except ClientError DetectionResult → Overlay × RequestStatus
  | .error _ => (.failed, .requestFailed)
  | .ok result => (.answered result, .answered)

omit [FrameSource κ ω Float] in
/-- The service is asked about a frame if there is a snapshot of it. -/
theorem detect_eq (p : Pipeline σ κ δ) (frame : Frame Float) (w : ω) :
    p.detect frame w =
      match Snapshot.take frame.picture (Surface.size p.renderer.surface).1
        (Surface.size p.renderer.surface).2 p.settings.format with
      | .error _ => (.failed, .encodeFailed, p, w)
      | .ok snapshot =>
        let asked := DetectionService.submit snapshot.octets snapshot.mediaType p.detector w
        ((shown asked.1).1, (shown asked.1).2, { p with detector := asked.2.1 }, asked.2.2) := by
  unfold detect
  rcases Surface.size p.renderer.surface with ⟨width, height⟩
  dsimp only
  rcases Snapshot.take frame.picture width height p.settings.format with e | snapshot
  · rfl
  · dsimp only
    rcases DetectionService.submit snapshot.octets snapshot.mediaType p.detector w with
      ⟨e | result, detector, v⟩
    · rfl
    · rfl

omit [FrameSource κ ω Float] in
/-- Asking the service has nothing to do with the session. -/
theorem detect_keeps (p : Pipeline σ κ δ) (frame : Frame Float) (w : ω) :
    (p.detect frame w).2.2.1.session = p.session ∧
      (p.detect frame w).2.2.1.paused = p.paused ∧
      (p.detect frame w).2.2.1.sourceOf = p.sourceOf := by
  rw [detect_eq]
  rcases Snapshot.take frame.picture (Surface.size p.renderer.surface).1
    (Surface.size p.renderer.surface).2 p.settings.format with e | snapshot
  · exact ⟨rfl, rfl, rfl⟩
  · exact ⟨rfl, rfl, rfl⟩

omit [FrameSource κ ω Float] in
/-- Dealing with a frame leaves the session as it is, and in the world nothing happens but that the
service is asked. -/
theorem process_keeps {p q : Pipeline σ κ δ} {frame : Frame Float} {w v : ω}
    {report : IterationReport} (h : p.process frame w = .ok (report, q, v)) :
    q.session = p.session ∧ q.paused = p.paused ∧ q.sourceOf = p.sourceOf ∧
      v = ((p.fit frame).detect frame w).2.2.2 := by
  obtain ⟨hsession, hpaused, hsourceOf⟩ := p.fit_keeps frame
  obtain ⟨hsession', hpaused', hsourceOf'⟩ := (p.fit frame).detect_keeps frame w
  unfold process at h
  rcases hasked : (p.fit frame).detect frame w with ⟨overlay, status, asked, w'⟩
  rw [hasked] at hsession' hpaused' hsourceOf'
  rcases hrender : asked.renderer.render frame overlay with fault | ⟨rendered, renderer⟩
  · simp only [hasked, hrender, bind, Except.bind] at h
    cases h
  · simp only [hasked, hrender, bind, Except.bind] at h
    cases h
    exact ⟨hsession'.trans hsession, hpaused'.trans hpaused, hsourceOf'.trans hsourceOf, rfl⟩

/-- No iteration is made while no frames are taken. -/
theorem step_of_idle {p : Pipeline σ κ δ} (h : p.isRunning = false) (w : ω) :
    p.step w = .ok (.ok none, p, w) := by
  unfold isRunning at h
  unfold step
  rcases hpaused : p.paused with _ | _
  · rcases hsession : p.session with _ | s
    · rfl
    · rw [hpaused, hsession] at h
      cases h
  · rfl

/-- An iteration asks the session for a frame; without one the session ends, and a frame is dealt
with.  The source may also stop the program. -/
theorem step_of_running {p : Pipeline σ κ δ} {s : Session κ} (hsession : p.session = some s)
    (hpaused : p.paused = false) (w : ω) :
    p.step w = match s.next w with
      | (.tooLarge, _, _) => .error .pictureTooLarge
      | (.ok (.error e), s, w) => .ok (.error e, { p with session := some s }.stop w)
      | (.ok (.ok frame), s, w) => Except.map (fun r => (.ok (some r.1), r.2.1, r.2.2))
          (process { p with session := some s } frame w) := by
  obtain ⟨catalog, settings, sourceOf, detector, renderer, session, paused, fitSurface⟩ := p
  cases hsession
  cases hpaused
  unfold step
  dsimp only
  rcases s.next w with ⟨_ | e | frame, s', w'⟩
  · rfl
  · rfl
  · show (process _ frame w' >>= _) = Except.map _ (process _ frame w')
    rcases process _ frame w' with fault | ⟨report, q, v⟩
    · rfl
    · rfl

/-- What an iteration comes to while frames are taken: there is no frame and the session ends, or a
frame is dealt with. -/
theorem step_cases {p q : Pipeline σ κ δ} {w v : ω}
    {outcome : Except AcquisitionError (Option IterationReport)} (hrunning : p.isRunning = true)
    (h : p.step w = .ok (outcome, q, v)) :
    ∃ s s' w', p.session = some s ∧
      ((∃ e, s.next w = (.ok (.error e), s', w') ∧ outcome = .error e ∧
        { p with session := some s' }.stop w' = (q, v)) ∨
      (∃ frame report, s.next w = (.ok (.ok frame), s', w') ∧ outcome = .ok (some report) ∧
        process { p with session := some s' } frame w' = .ok (report, q, v))) := by
  obtain ⟨s, hs, hpaused⟩ := p.isRunning_iff.1 hrunning
  rw [step_of_running hs hpaused] at h
  rcases hnext : s.next w with ⟨_ | e | frame, s', w'⟩
  · rw [hnext] at h
    cases h
  · rw [hnext] at h
    obtain ⟨houtcome, hstop⟩ := Prod.mk.inj (Except.ok.inj h)
    exact ⟨s, s', w', hs, .inl ⟨e, hnext, houtcome.symm, hstop⟩⟩
  · rcases hprocess : process { p with session := some s' } frame w' with
      fault | ⟨report, q', v'⟩
    · simp only [hnext, hprocess] at h
      cases h
    · simp only [hnext, hprocess] at h
      obtain ⟨houtcome, hafter⟩ := Prod.mk.inj (Except.ok.inj h)
      rw [hafter] at hprocess
      exact ⟨s, s', w', hs, .inr ⟨frame, report, hnext, houtcome.symm, hprocess⟩⟩

/-! ### Operations -/

/-- Carry out an operation. -/
def perform : Op κ → Pipeline σ κ δ → ω → Except Fault (Answer × Pipeline σ κ δ × ω)
  | .start constraints, p, w => do
    let (outcome, p, w) ← p.start constraints w
    return (.opened outcome, p, w)
  | .startWith deviceId source, p, w =>
    let (outcome, p, w) := p.startWith deviceId source w
    .ok (.opened outcome, p, w)
  | .pause, p, w => .ok (.done, p.pause, w)
  | .resume, p, w => .ok (.done, p.resume, w)
  | .stop, p, w =>
    let (p, w) := p.stop w
    .ok (.done, p, w)
  | .step, p, w => do
    let (outcome, p, w) ← p.step w
    return (.stepped outcome, p, w)

/-- A request for a device. -/
theorem perform_start (constraints : Constraints) (p : Pipeline σ κ δ) (w : ω) :
    perform (.start constraints) p w =
      (deviceFor p.catalog p.sourceOf p.settings.rate constraints).map fun
        | .error e => (.opened (.error e), (p.stop w).1, (p.stop w).2)
        | .ok (id, source) =>
          (.opened (p.restart id constraints source w).1,
            (p.restart id constraints source w).2.1, (p.restart id constraints source w).2.2) := by
  unfold perform
  simp only [start_eq]
  rcases deviceFor p.catalog p.sourceOf p.settings.rate constraints with
    fault | e | ⟨id, source⟩
  · rfl
  · rfl
  · rfl

/-- A request for a session over a source. -/
theorem perform_startWith (deviceId : String) (source : κ) (p : Pipeline σ κ δ) (w : ω) :
    perform (.startWith deviceId source) p w =
      .ok (.opened (p.restart deviceId {} source w).1,
        (p.restart deviceId {} source w).2.1, (p.restart deviceId {} source w).2.2) := rfl

/-- What an operation can come to: a pause, its end, the end of the session, another session over a
source of a device or one that was handed over, or an iteration. -/
theorem perform_cases {op : Op κ} {p q : Pipeline σ κ δ} {w v : ω} {answer : Answer}
    (h : perform op p w = .ok (answer, q, v)) :
    (q = p.pause ∧ v = w) ∨ (q = p.resume ∧ v = w) ∨ p.stop w = (q, v) ∨
      (∃ deviceId constraints source, (p.restart deviceId constraints source w).2 = (q, v) ∧
        (op = .startWith deviceId source ∨ ∃ settings, p.sourceOf settings = .ok source)) ∨
      (∃ outcome, p.step w = .ok (outcome, q, v)) := by
  cases op with
  | start constraints =>
    rw [perform_start] at h
    rcases hdevice : deviceFor p.catalog p.sourceOf p.settings.rate constraints with
      fault | e | ⟨id, source⟩
    · rw [hdevice] at h
      cases h
    · rw [hdevice] at h
      exact .inr (.inr (.inl (Prod.mk.inj (Except.ok.inj h)).2))
    · rw [hdevice] at h
      have hrestart := (Prod.mk.inj (Except.ok.inj h)).2
      exact .inr (.inr (.inr (.inl ⟨id, constraints, source, hrestart,
        .inr (exists_sourceOf hdevice)⟩)))
  | startWith deviceId source =>
    rw [perform_startWith] at h
    have hrestart := (Prod.mk.inj (Except.ok.inj h)).2
    exact .inr (.inr (.inr (.inl ⟨deviceId, {}, source, hrestart, .inl rfl⟩)))
  | pause =>
    cases h
    exact .inl ⟨rfl, rfl⟩
  | resume =>
    cases h
    exact .inr (.inl ⟨rfl, rfl⟩)
  | stop => exact .inr (.inr (.inl (Prod.mk.inj (Except.ok.inj h)).2))
  | step =>
    rcases hstep : p.step w with fault | ⟨outcome, q', v'⟩
    · simp only [perform, hstep, bind, Except.bind] at h
      cases h
    · simp only [perform, hstep, bind, Except.bind] at h
      have hafter := (Prod.mk.inj (Except.ok.inj h)).2
      refine .inr (.inr (.inr (.inr ⟨outcome, ?_⟩)))
      rw [← hafter]

/-- Carry out operations one after the other, each by `act`, up to one that stops the program; what
was asked and given back, and where that led. -/
def runWith {π ω : Type} (act : Op κ → π → ω → Except Fault (Answer × π × ω)) :
    List (Op κ) → π → ω → List (Op κ × Answer) × π × ω
  | [], p, w => ([], p, w)
  | op :: ops, p, w =>
    match act op p w with
    | .error _ => ([], p, w)
    | .ok (answer, p, w) =>
      let (rest, p, w) := runWith act ops p w
      ((op, answer) :: rest, p, w)

end Lookout.Pipeline
