import Lookout.Capture.Session
import Lookout.Detection.Service
import Lookout.Display.Renderer
import Lookout.Snapshot.Basic
/-!
# The camera pipeline

One iteration takes a frame, sends a snapshot of it to the detection service and renders the frame
with the boxes that were found.  The next frame is taken only after that, so there is never more
than one request under way.

A snapshot that cannot be made and a request that fails are made up for within the iteration: the
frame is rendered without boxes.  A frame that cannot be had ends the session.

* `Pipeline.step` is one iteration.
* `Pipeline.run` is a whole run under commands, which are carried out between iterations only.
-/

namespace Lookout

/-- What does not change while a pipeline lives. -/
structure PipelineSettings where
  /-- Frames in a second. -/
  rate : Nat := 30
  /-- The format of snapshots. -/
  format : SnapshotFormat := .jpeg
  deriving DecidableEq, Repr

/-- What the controls ask of a pipeline. -/
inductive Command where
  /-- Open a device; a session that is there is ended first. -/
  | start (constraints : Constraints)
  /-- Take no more frames for now. -/
  | pause
  /-- Take frames again. -/
  | resume
  /-- End the session and the run. -/
  | stop
  deriving DecidableEq, Repr

/-- How the request of an iteration went. -/
inductive RequestStatus where
  /-- It was answered. -/
  | answered
  /-- There was no snapshot to send. -/
  | encodeFailed
  /-- It had no usable answer. -/
  | requestFailed
  deriving DecidableEq, Repr

/-- The account of one iteration. -/
structure IterationReport where
  /-- How the request went. -/
  status : RequestStatus
  /-- How many boxes were drawn. -/
  boxesDrawn : Nat
  /-- The frame rate. -/
  fps : Float
  /-- When the frame was taken. -/
  timestamp : Float

/-- A pipeline over a surface of type `σ`, sources of type `κ` and a service of type `δ`. -/
structure Pipeline (σ κ δ : Type) where
  /-- The devices that can be opened. -/
  catalog : Catalog
  /-- What does not change. -/
  settings : PipelineSettings
  /-- The source for some settings. -/
  sourceOf : SourceSettings → Except AcquisitionError κ
  /-- The detection service. -/
  detector : δ
  /-- What frames are rendered on. -/
  renderer : Renderer σ
  /-- The session, if there is one. -/
  session : Option (Session κ) := none
  /-- No frames are taken for now. -/
  paused : Bool := false
  /-- The surface takes on the size of the next frame. -/
  fitSurface : Bool := false

namespace Pipeline

variable {σ κ δ ω : Type}

/-- Frames are being taken. -/
def isRunning (p : Pipeline σ κ δ) : Bool := p.session.isSome && !p.paused

/-- Take no more frames for now. -/
def pause (p : Pipeline σ κ δ) : Pipeline σ κ δ := { p with paused := p.paused || p.session.isSome }

/-- Take frames again. -/
def resume (p : Pipeline σ κ δ) : Pipeline σ κ δ :=
  { p with paused := p.paused && p.session.isNone }

variable [Surface σ] [FrameSource κ ω Float]

/-- Put a session in place of the one that was there. -/
def attach (p : Pipeline σ κ δ) (s : Session κ) : Pipeline σ κ δ :=
  { p with
    renderer := p.renderer.resetClock
    session := some s
    paused := false
    fitSurface := true }

/-- End the session; the frame rate starts over with the next one. -/
def stop (p : Pipeline σ κ δ) (w : ω) : Pipeline σ κ δ × ω :=
  match p.session with
  | none => ({ p with paused := false }, w)
  | some s =>
    let (_, w) := s.stop w
    ({ p with renderer := p.renderer.resetClock, session := none, paused := false }, w)

/-- Open a device that satisfies a request. -/
def start (p : Pipeline σ κ δ) (constraints : Constraints) (w : ω) :
    Except Fault (Except AcquisitionError Unit × Pipeline σ κ δ × ω) := do
  let (p, w) := p.stop w
  match ← Session.openDevice p.catalog p.sourceOf p.settings.rate constraints w with
  | (.error e, w) => return (.error e, p, w)
  | (.ok s, w) => return (.ok (), p.attach s, w)

/-- Start a session over a source. -/
def startWith (p : Pipeline σ κ δ) (deviceId : String) (source : κ) (w : ω) :
    Except AcquisitionError Unit × Pipeline σ κ δ × ω :=
  let (p, w) := p.stop w
  match Session.start deviceId {} source w with
  | (.error e, w) => (.error e, p, w)
  | (.ok s, w) => (.ok (), p.attach s, w)

/-- Give the surface the size of a frame, if it is the first of its session. -/
def fit (p : Pipeline σ κ δ) (frame : Frame Float) : Pipeline σ κ δ :=
  if p.fitSurface then
    { p with
      renderer := p.renderer.resize frame.picture.width frame.picture.height
      fitSurface := false }
  else p

variable [DetectionService δ ω]

/-- Ask the service about a frame. -/
def detect (p : Pipeline σ κ δ) (frame : Frame Float) (w : ω) :
    Overlay × RequestStatus × Pipeline σ κ δ × ω :=
  let (width, height) := Surface.size p.renderer.surface
  match Snapshot.take frame.picture width height p.settings.format with
  | .error _ => (.failed, .encodeFailed, p, w)
  | .ok snapshot =>
    match DetectionService.submit snapshot.octets snapshot.mediaType p.detector w with
    | (.error _, detector, w) => (.failed, .requestFailed, { p with detector }, w)
    | (.ok result, detector, w) => (.answered result, .answered, { p with detector }, w)

/-- What is done with a frame. -/
def process (p : Pipeline σ κ δ) (frame : Frame Float) (w : ω) :
    Except Fault (IterationReport × Pipeline σ κ δ × ω) := do
  let (overlay, status, p, w) := (p.fit frame).detect frame w
  let (report, renderer) ← p.renderer.render frame overlay
  return (⟨status, report.boxesDrawn, report.fps, frame.timestamp⟩, { p with renderer }, w)

/-- One iteration; there is none while the pipeline is paused or has no session. -/
def step (p : Pipeline σ κ δ) (w : ω) :
    Except Fault (Except AcquisitionError (Option IterationReport) × Pipeline σ κ δ × ω) :=
  match p.paused, p.session with
  | false, some s =>
    match s.next w with
    | (.tooLarge, _, _) => .error .pictureTooLarge
    | (.ok (.error e), s, w) =>
      let (p, w) := { p with session := some s }.stop w
      .ok (.error e, p, w)
    | (.ok (.ok frame), s, w) => do
      let (report, p, w) ← { p with session := some s }.process frame w
      return (.ok (some report), p, w)
  | _, _ => .ok (.ok none, p, w)

/-! ## Runs -/

/-- How a run ended. -/
inductive RunEnd where
  /-- It was over after so many frames. -/
  | finished (rendered : Nat)
  /-- A device could not be opened or a frame could not be had. -/
  | failed (error : AcquisitionError)
  /-- It was still going on after so many frames. -/
  | unfinished (rendered : Nat)
  deriving DecidableEq, Repr

/-- Commands on their way to a pipeline: those that have arrived, and then batches of those that
arrive later, each before another iteration.  After the last batch no command can arrive any
more. -/
structure Inbox where
  /-- What has arrived. -/
  queue : List Command
  /-- What arrives later. -/
  later : List (List Command) := []

namespace Inbox

/-- All commands are there from the beginning. -/
def ofList (commands : List Command) : Inbox := { queue := commands }

/-- The next batch arrives. -/
def receive (i : Inbox) : Inbox :=
  match i.later with
  | [] => i
  | batch :: later => ⟨i.queue ++ batch, later⟩

/-- How much there is to wait for and to carry out. -/
def measure (i : Inbox) : Nat := i.queue.length + i.later.foldr (·.length + 1 + ·) 0

end Inbox

/-- What became of the commands before an iteration. -/
inductive Readiness where
  /-- There is a frame to take. -/
  | ready
  /-- The run is over. -/
  | over (failure : Option AcquisitionError)

/-- Carry out the commands that have arrived.  While no frames are being taken, wait for more; if
none can arrive any more, the run is over. -/
def obey (p : Pipeline σ κ δ) (i : Inbox) (w : ω) :
    Except Fault (Readiness × Pipeline σ κ δ × Inbox × ω) :=
  match i with
  | ⟨.stop :: queue, later⟩ =>
    let (p, w) := p.stop w
    .ok (.over none, p, ⟨queue, later⟩, w)
  | ⟨.pause :: queue, later⟩ => obey p.pause ⟨queue, later⟩ w
  | ⟨.resume :: queue, later⟩ => obey p.resume ⟨queue, later⟩ w
  | ⟨.start constraints :: queue, later⟩ => do
    match ← p.start constraints w with
    | (.error e, p, w) => .ok (.over (some e), p, ⟨queue, later⟩, w)
    | (.ok (), p, w) => obey p ⟨queue, later⟩ w
  | ⟨[], later⟩ =>
    if p.isRunning then .ok (.ready, p, ⟨[], later⟩, w)
    else match later with
      | [] =>
        let (p, w) := p.stop w
        .ok (.over none, p, ⟨[], []⟩, w)
      | batch :: later => obey p ⟨batch, later⟩ w
termination_by i.measure
decreasing_by all_goals simp [Inbox.measure]; try omega

/-- Run under commands until one of them ends it, until nothing more can be asked of an idle
pipeline, or until `limit` frames were rendered, where there is a limit.  At most `fuel` iterations
are made. -/
def run (limit : Option Nat) : Nat → Nat → Pipeline σ κ δ → Inbox → ω →
    Except Fault (RunEnd × Pipeline σ κ δ × Inbox × ω)
  | 0, rendered, p, i, w => .ok (.unfinished rendered, p, i, w)
  | fuel + 1, rendered, p, i, w => do
    match ← p.obey i w with
    | (.over none, p, i, w) => return (.finished rendered, p, i, w)
    | (.over (some e), p, i, w) => return (.failed e, p, i, w)
    | (.ready, p, i, w) =>
      match ← p.step w with
      | (.error e, p, w) => return (.failed e, p, i, w)
      | (.ok none, p, w) => run limit fuel rendered p i.receive w
      | (.ok (some _), p, w) =>
        let rendered := rendered + 1
        match limit with
        | some most =>
          if most ≤ rendered then
            let (p, w) := p.stop w
            return (.finished rendered, p, i, w)
          else run limit fuel rendered p i.receive w
        | none => run limit fuel rendered p i.receive w

end Pipeline

end Lookout
