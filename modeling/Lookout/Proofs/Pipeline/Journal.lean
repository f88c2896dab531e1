import Lookout.Display.Recorder
import Lookout.Proofs.Pipeline.History
/-!
# The journal of a pipeline

A journal is a world that takes down what happens in it, in the order in which it happens: each
time a source is asked for a frame, with what it gave, and each time a picture is sent to the
detection service, with what it answered.  Sources and services of a world are sources and services
of its journals, and a pipeline in a journal does what it does in the world itself.

What is drawn happens on the surface, which is no part of the world.  A recorder keeps it, and
`Pipeline.performNoting` carries over to the journal what the recorder has gained, after every
stage of an operation, so that one list holds everything in its order.

* **Taking things down changes nothing** (`performNoting_erase`): without the journal an operation
  gives back the same and leads to the same pipeline and the same world.
-/

namespace Lookout

/-- Something that a journal takes down. -/
inductive Event where
  /-- A source was asked for a frame, and what it gave. -/
  | asked (frame : Except AcquisitionError (Frame Float))
  /-- A picture was sent to the service with its media type, and what was answered. -/
  | submitted (octets : ByteArray) (mediaType : String)
    (answer : Except ClientError DetectionResult)
  /-- Something was drawn. -/
  | drawn (op : DrawOp)

/-- What a source gave that was asked for a frame; one that stops the program gives nothing. -/
def Event.given : Delivery Float → List Event
  | .ok frame => [.asked frame]
  | .tooLarge => []

/-- A world with what has happened in it. -/
structure Journal (ω : Type) where
  /-- The world. -/
  world : ω
  /-- What has happened, in order. -/
  log : List Event := []

namespace Journal

variable {κ δ ω : Type}

/-- Something happens in the world. -/
def advance (j : Journal ω) (w : ω) (events : List Event) : Journal ω := ⟨w, j.log ++ events⟩

/-- Nothing but the world changes. -/
theorem advance_nil (j : Journal ω) (w : ω) : j.advance w [] = { j with world := w } :=
  congrArg (Journal.mk w) (List.append_nil j.log)

instance [FrameSource κ ω Float] : FrameSource κ (Journal ω) Float where
  connect source j :=
    let (outcome, source, w) := FrameSource.connect source j.world
    (outcome, source, { j with world := w })
  next source j :=
    let (delivery, source, w) := FrameSource.next source j.world
    (delivery, source, j.advance w (Event.given delivery))
  stop source j :=
    let (source, w) := FrameSource.stop source j.world
    (source, { j with world := w })
  isHealthy source j :=
    let (healthy, w) := FrameSource.isHealthy source j.world
    (healthy, { j with world := w })

instance [DetectionService δ ω] : DetectionService δ (Journal ω) where
  submit octets mediaType detector j :=
    let (answer, detector, w) := DetectionService.submit octets mediaType detector j.world
    (answer, detector, j.advance w [.submitted octets mediaType answer])

/-- Sending a picture is taken down with the answer. -/
theorem submit_eq [DetectionService δ ω] (octets : ByteArray) (mediaType : String) (detector : δ)
    (j : Journal ω) :
    DetectionService.submit octets mediaType detector j =
      ((DetectionService.submit octets mediaType detector j.world).1,
        (DetectionService.submit octets mediaType detector j.world).2.1,
        j.advance (DetectionService.submit octets mediaType detector j.world).2.2
          [.submitted octets mediaType
            (DetectionService.submit octets mediaType detector j.world).1]) := rfl

/-- What happens first and what happens then. -/
theorem advance_advance (j : Journal ω) (w w' : ω) (first rest : List Event) :
    (j.advance w first).advance w' rest = j.advance w' (first ++ rest) :=
  congrArg (Journal.mk w') (List.append_assoc j.log first rest)

/-- Take down what was drawn between two states of a recording renderer. -/
def noteDrawing (j : Journal ω) (before after : Renderer Recorder) : Journal ω :=
  j.advance j.world ((after.surface.ops.toList.drop before.surface.ops.size).map .drawn)

/-- What was drawn is what the recorder has gained. -/
theorem noteDrawing_eq (j : Journal ω) {before after : Renderer Recorder} {drawn : List DrawOp}
    (h : after.surface.ops.toList = before.surface.ops.toList ++ drawn) :
    j.noteDrawing before after = j.advance j.world (drawn.map .drawn) := by
  unfold noteDrawing
  rw [h, ← Array.length_toList, List.drop_left]

/-- Where the surface is the same, nothing was drawn. -/
theorem noteDrawing_of_surface_eq (j : Journal ω) {before after : Renderer Recorder}
    (h : after.surface = before.surface) : j.noteDrawing before after = j := by
  have hnothing : after.surface.ops.toList = before.surface.ops.toList ++ [] := by
    rw [h, List.append_nil]
  rw [j.noteDrawing_eq hnothing]
  exact j.advance_nil j.world

end Journal

/-! ### Sessions in a journal -/

namespace Session

variable {κ ω : Type} [FrameSource κ ω Float]

/-- Waiting for a frame is taken down, unless the session has stopped its source. -/
theorem next_journal (s : Session κ) (j : Journal ω) :
    s.next j = ((s.next j.world).1, (s.next j.world).2.1,
      j.advance (s.next j.world).2.2
        (if s.stopped then [] else Event.given (s.next j.world).1)) := by
  unfold next
  by_cases h : s.stopped = true
  · rw [if_pos h, if_pos h, if_pos h, Journal.advance_nil]
  · rw [if_neg h, if_neg h, if_neg h]
    rfl

/-- Stopping a source is not taken down. -/
theorem stop_journal (s : Session κ) (j : Journal ω) :
    s.stop j = ((s.stop j.world).1, { j with world := (s.stop j.world).2 }) := by
  unfold stop
  by_cases h : s.stopped = true
  · rw [if_pos h, if_pos h]
  · rw [if_neg h, if_neg h]
    rfl

/-- Connecting a source is not taken down. -/
theorem start_journal (deviceId : String) (constraints : Constraints) (source : κ)
    (j : Journal ω) :
    start deviceId constraints source j =
      ((start deviceId constraints source j.world).1,
        { j with world := (start deviceId constraints source j.world).2 }) := by
  have hconnect : FrameSource.connect source j = ((FrameSource.connect source j.world).1,
      (FrameSource.connect source j.world).2.1,
      { j with world := (FrameSource.connect source j.world).2.2 }) := rfl
  unfold start
  rw [hconnect]
  rcases FrameSource.connect source j.world with ⟨e | _, source', w⟩
  · rfl
  · rfl

end Session

/-! ### Pipelines in a journal -/

namespace Pipeline

section

variable {σ κ δ ω : Type}

/-- Ending a session is not taken down. -/
theorem stop_journal [FrameSource κ ω Float] (p : Pipeline σ κ δ) (j : Journal ω) :
    p.stop j = ((p.stop j.world).1, { j with world := (p.stop j.world).2 }) := by
  unfold stop
  rcases p.session with _ | s
  · rfl
  · simp only [s.stop_journal j]

/-- Starting a session is not taken down. -/
theorem restart_journal [FrameSource κ ω Float] (p : Pipeline σ κ δ) (deviceId : String)
    (constraints : Constraints) (source : κ) (j : Journal ω) :
    p.restart deviceId constraints source j =
      ((p.restart deviceId constraints source j.world).1,
        (p.restart deviceId constraints source j.world).2.1,
        { j with world := (p.restart deviceId constraints source j.world).2.2 }) := by
  unfold restart
  simp only [p.stop_journal j, Session.start_journal]
  rcases Session.start deviceId constraints source (p.stop j.world).2 with ⟨e | s, w⟩
  · rfl
  · rfl

variable [Surface σ] [DetectionService δ ω]

/-- What an iteration sends to the service, and what is answered. -/
def requests (p : Pipeline σ κ δ) (frame : Frame Float) (w : ω) : List Event :=
  let (width, height) := Surface.size p.renderer.surface
  match Snapshot.take frame.picture width height p.settings.format with
  | .error _ => []
  | .ok snapshot =>
    [.submitted snapshot.octets snapshot.mediaType
      (DetectionService.submit snapshot.octets snapshot.mediaType p.detector w).1]

/-- Asking the service about a frame is taken down. -/
theorem detect_journal (p : Pipeline σ κ δ) (frame : Frame Float) (j : Journal ω) :
    p.detect frame j = ((p.detect frame j.world).1, (p.detect frame j.world).2.1,
      (p.detect frame j.world).2.2.1,
      j.advance (p.detect frame j.world).2.2.2 (p.requests frame j.world)) := by
  unfold detect requests
  rcases Surface.size p.renderer.surface with ⟨width, height⟩
  simp only
  rcases Snapshot.take frame.picture width height p.settings.format with e | snapshot
  · rw [Journal.advance_nil]
  · simp only [Journal.submit_eq]
    rcases DetectionService.submit snapshot.octets snapshot.mediaType p.detector j.world with
      ⟨e | result, detector, w⟩
    · rfl
    · rfl

/-- An operation that is no iteration takes nothing down. -/
theorem perform_journal [FrameSource κ ω Float] {op : Op κ} (hop : op ≠ .step)
    (p : Pipeline σ κ δ) (j : Journal ω) :
    perform op p j =
      (perform op p j.world).map fun r => (r.1, r.2.1, { j with world := r.2.2 }) := by
  cases op with
  | start constraints =>
    rw [perform_start, perform_start]
    rcases deviceFor p.catalog p.sourceOf p.settings.rate constraints with
      fault | e | ⟨id, source⟩
    · rfl
    · simp only [Except.map, p.stop_journal j]
    · simp only [Except.map, p.restart_journal id constraints source j]
  | startWith deviceId source =>
    rw [perform_startWith, perform_startWith, p.restart_journal deviceId {} source j]
    rfl
  | pause => rfl
  | resume => rfl
  | stop =>
    simp only [perform, stop_journal]
    rfl
  | step => exact absurd rfl hop

end

/-! ### Operations with what they draw -/

variable {κ δ ω : Type} [DetectionService δ ω]

/-- What is done with a frame; what a stage draws is taken down after the stage. -/
def processNoting (p : Pipeline Recorder κ δ) (frame : Frame Float) (j : Journal ω) :
    Except Fault (IterationReport × Pipeline Recorder κ δ × Journal ω) := do
  let fitted := p.fit frame
  let j := j.noteDrawing p.renderer fitted.renderer
  let (overlay, status, asked, j) := fitted.detect frame j
  let j := j.noteDrawing fitted.renderer asked.renderer
  let (report, renderer) ← asked.renderer.render frame overlay
  let j := j.noteDrawing asked.renderer renderer
  return (⟨status, report.boxesDrawn, report.fps, frame.timestamp⟩, { asked with renderer }, j)

/-- A frame is dealt with as without the journal. -/
theorem processNoting_erase (p : Pipeline Recorder κ δ) (frame : Frame Float) (j : Journal ω) :
    (p.processNoting frame j).map (fun r => (r.1, r.2.1, r.2.2.world)) =
      p.process frame j.world := by
  unfold processNoting process
  simp only [detect_journal]
  show Except.map _ (_ >>= _) = _
  have hworld : (j.noteDrawing p.renderer (p.fit frame).renderer).world = j.world := rfl
  rw [hworld]
  rcases (p.fit frame).detect frame j.world with ⟨overlay, status, asked, w⟩
  show Except.map _ (asked.renderer.render frame overlay >>= _) =
    asked.renderer.render frame overlay >>= _
  rcases asked.renderer.render frame overlay with fault | ⟨report, renderer⟩
  · rfl
  · rfl

variable [FrameSource κ ω Float]

/-- One iteration; what it draws is taken down. -/
def stepNoting (p : Pipeline Recorder κ δ) (j : Journal ω) :
    Except Fault
      (Except AcquisitionError (Option IterationReport) × Pipeline Recorder κ δ × Journal ω) :=
  match p.paused, p.session with
  | false, some s =>
    match s.next j with
    | (.tooLarge, _, _) => .error .pictureTooLarge
    | (.ok (.error e), s, j) =>
      let (stopped, j) := { p with session := some s }.stop j
      .ok (.error e, stopped, j.noteDrawing p.renderer stopped.renderer)
    | (.ok (.ok frame), s, j) => do
      let (report, p, j) ← { p with session := some s }.processNoting frame j
      return (.ok (some report), p, j)
  | _, _ => .ok (.ok none, p, j)

/-- Carry out an operation; what it draws is taken down. -/
def performNoting (op : Op κ) (p : Pipeline Recorder κ δ) (j : Journal ω) :
    Except Fault (Answer × Pipeline Recorder κ δ × Journal ω) :=
  match op with
  | .step => do
    let (outcome, p, j) ← p.stepNoting j
    return (.stepped outcome, p, j)
  | op => do
    let (answer, after, j) ← perform op p j
    return (answer, after, j.noteDrawing p.renderer after.renderer)

/-- An iteration is as it is without the journal. -/
theorem stepNoting_erase (p : Pipeline Recorder κ δ) (j : Journal ω) :
    (p.stepNoting j).map (fun r => (r.1, r.2.1, r.2.2.world)) = p.step j.world := by
  unfold stepNoting step
  rcases p.paused with _ | _
  · rcases p.session with _ | s
    · rfl
    · simp only [s.next_journal j]
      rcases s.next j.world with ⟨_ | e | frame, next, w⟩
      · rfl
      · simp only [stop_journal]
        rfl
      · have hprocess := processNoting_erase { p with session := some next, paused := false } frame
          (j.advance w (if s.stopped then [] else Event.given (.ok (.ok frame))))
        show Except.map _ (processNoting _ frame _ >>= _) = (process _ frame w >>= _)
        rw [show process _ frame w = _ from hprocess.symm]
        rcases processNoting _ frame _ with fault | ⟨report, p, j⟩
        · rfl
        · rfl
  · rfl

/-- An operation that is no iteration is taken down by what it draws. -/
theorem performNoting_of_ne {op : Op κ} (hop : op ≠ .step) (p : Pipeline Recorder κ δ)
    (j : Journal ω) :
    performNoting op p j = (perform op p j.world).map fun r =>
      (r.1, r.2.1, Journal.noteDrawing { j with world := r.2.2 } p.renderer r.2.1.renderer) := by
  have hact : performNoting op p j = (do
      let (answer, after, j) ← perform op p j
      return (answer, after, j.noteDrawing p.renderer after.renderer)) := by
    cases op with
    | step => exact absurd rfl hop
    | start _ => rfl
    | startWith _ _ => rfl
    | pause => rfl
    | resume => rfl
    | stop => rfl
  rw [hact, perform_journal hop]
  rcases perform op p j.world with fault | ⟨answer, after, w⟩
  · rfl
  · rfl

/-- **Taking things down changes nothing.** -/
theorem performNoting_erase (op : Op κ) (p : Pipeline Recorder κ δ) (j : Journal ω) :
    (performNoting op p j).map (fun r => (r.1, r.2.1, r.2.2.world)) = perform op p j.world := by
  by_cases hop : op = .step
  · subst hop
    show Except.map _ (p.stepNoting j >>= _) = (p.step j.world >>= _)
    rw [← stepNoting_erase]
    rcases p.stepNoting j with fault | ⟨outcome, p, j⟩
    · rfl
    · rfl
  · rw [performNoting_of_ne hop]
    rcases perform op p j.world with fault | ⟨answer, after, w⟩
    · rfl
    · rfl

/-- A history is as it is without the journal. -/
theorem runWith_performNoting_erase (ops : List (Op κ)) (p : Pipeline Recorder κ δ)
    (j : Journal ω) :
    ((runWith performNoting ops p j).1, (runWith performNoting ops p j).2.1,
      (runWith performNoting ops p j).2.2.world) = runWith perform ops p j.world := by
  induction ops generalizing p j with
  | nil => rfl
  | cons op ops ih =>
    have herase := performNoting_erase op p j
    unfold runWith
    rw [← herase]
    rcases performNoting op p j with fault | ⟨answer, after, j⟩
    · rfl
    · show _ = ((op, answer) :: (runWith perform ops after j.world).1, _)
      rw [← ih after j]

end Pipeline

end Lookout
