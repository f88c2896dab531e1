import Lookout.Proofs.Pipeline.Journal
/-!
# What an iteration leaves in the journal

Everything that a pipeline takes from its source, sends to the service and draws is accounted for
by its iterations.  `Lawful` says what the journal of a history looks like: for each iteration that
was made one block, for everything else nothing.  A block begins with one request for a frame, and
where there was one goes on with

* the surface taking on the size of the frame, if no frame of the session was shown before,
* one picture sent to the service in the configured format, if there is a file of the picture at
  the size of the surface (`payload`),
* the picture of the frame, and
* for each box of an answer that reports no failure, in the order of the answer, its outline and
  then its label at the corner of the outline.

The law speaks of a session and of a size (`View`) that it derives from the operations and their
outcomes alone.  That the pipeline agrees with them (`Shows`) is the invariant.

* **The journal of every history is lawful** (`journal_of_history`), from a new pipeline on.
-/

namespace Lookout

/-! ### What a recorder gains -/

namespace Recorder

/-- Draw several things. -/
def gain (r : Recorder) (drawn : List DrawOp) : Recorder :=
  { r with ops := r.ops ++ drawn.toArray }

/-- Drawing nothing. -/
theorem gain_nil (r : Recorder) : r.gain [] = r := by
  unfold gain
  rw [show r.ops ++ [].toArray = r.ops from Array.append_empty]

/-- Drawing one thing. -/
theorem record_eq_gain (r : Recorder) (op : DrawOp) : r.record op = r.gain [op] := by
  unfold record gain
  rw [Array.push_eq_append]

/-- Drawing several things and then others. -/
theorem gain_gain (r : Recorder) (first rest : List DrawOp) :
    (r.gain first).gain rest = r.gain (first ++ rest) := by
  show ({ r with ops := r.ops ++ first.toArray ++ rest.toArray } : Recorder) = _
  rw [Array.append_assoc, List.append_toArray first rest]
  rfl

/-- What has been drawn in all. -/
theorem toList_ops_gain (r : Recorder) (drawn : List DrawOp) :
    (r.gain drawn).ops.toList = r.ops.toList ++ drawn := by
  unfold gain
  rw [Array.toList_append]

end Recorder

/-- What is drawn for a box on a surface of the given size. -/
def boxOps (size : Nat × Nat) (d : Detection) : List DrawOp :=
  [.box (d.region size.1 size.2),
    .text d.label (d.region size.1 size.2).x (d.region size.1 size.2).y]

namespace Renderer

/-- A recorder keeps the outlines and labels of boxes in their order. -/
theorem drawBoxes_recorder (style : OverlayStyle) (size : Nat × Nat) (ds : List Detection)
    (r : Recorder) :
    drawBoxes style size.1 size.2 ds r = .ok (r.gain (ds.flatMap (boxOps size))) := by
  induction ds generalizing r with
  | nil => exact congrArg Except.ok r.gain_nil.symm
  | cons d ds ih =>
    have hbox : drawBox style size.1 size.2 d r = .ok (r.gain (boxOps size d)) := by
      unfold boxOps
      rw [← List.singleton_append, ← Recorder.gain_gain, ← Recorder.record_eq_gain,
        ← Recorder.record_eq_gain]
      rfl
    unfold drawBoxes
    rw [hbox, List.flatMap_cons, ← Recorder.gain_gain]
    exact ih (r.gain (boxOps size d))

/-- A render pass on a recorder draws the picture and then the boxes. -/
theorem render_recorder (r : Renderer Recorder) (frame : Frame Float) (overlay : Overlay) :
    ∃ report after, r.render frame overlay = .ok (report, after) ∧
      report.boxesDrawn = overlay.boxes.length ∧
      after.surface = r.surface.gain (.picture frame.picture.width frame.picture.height ::
        overlay.boxes.flatMap (boxOps (Surface.size r.surface))) := by
  have hpicture : Surface.drawPicture frame.picture r.surface =
      r.surface.gain [.picture frame.picture.width frame.picture.height] :=
    Recorder.record_eq_gain _ _
  have hboxes := drawBoxes_recorder r.style (Surface.size r.surface) overlay.boxes
    (Surface.drawPicture frame.picture r.surface)
  rw [hpicture, Recorder.gain_gain, List.singleton_append] at hboxes
  have hrender : r.render frame overlay =
      (drawBoxes r.style (Surface.size r.surface).1 (Surface.size r.surface).2 overlay.boxes
        (r.surface.gain [.picture frame.picture.width frame.picture.height])).map fun surface =>
          (⟨overlay.boxes.length, (r.finish surface frame).1⟩, (r.finish surface frame).2) := by
    unfold render
    rw [hpicture]
    show (drawBoxes r.style (Surface.size r.surface).1 (Surface.size r.surface).2 overlay.boxes
      (r.surface.gain [.picture frame.picture.width frame.picture.height]) >>= _) = _
    rcases drawBoxes r.style (Surface.size r.surface).1 (Surface.size r.surface).2 overlay.boxes
      (r.surface.gain [.picture frame.picture.width frame.picture.height]) with fault | surface
    · rfl
    · rfl
  rw [hrender, hboxes]
  exact ⟨_, _, rfl, rfl, rfl⟩

end Renderer

namespace Pipeline

/-! ### The law -/

/-- A session, as the law speaks of it. -/
structure Showing where
  /-- No frames are taken for now. -/
  paused : Bool := false
  /-- A frame of the session was shown. -/
  shown : Bool := false

/-- What the law knows of a pipeline. -/
structure View where
  /-- The session, if there is one. -/
  session : Option Showing := none
  /-- The size of the surface. -/
  size : Nat × Nat

namespace View

/-- No frames are taken. -/
def isIdle (v : View) : Bool :=
  match v.session with
  | none => true
  | some s => s.paused

/-- The session has just been started, or could not be. -/
def opened (v : View) : Except AcquisitionError Unit → View
  | .ok () => { v with session := some {} }
  | .error _ => { v with session := none }

/-- The session, if there is one, is paused or resumed. -/
def setPaused (v : View) (paused : Bool) : View :=
  { v with session := v.session.map ({ · with paused }) }

/-- The size of the surface while a frame of the session is shown: that of the frame if it is the
first. -/
def sizeFor (v : View) (s : Showing) (frame : Frame Float) : Nat × Nat :=
  if s.shown then v.size else (frame.picture.width, frame.picture.height)

end View

/-- The file that is sent for a picture: none if the surface or the picture has a side of zero, or
if the format has no room for it. -/
def payload (format : SnapshotFormat) (size : Nat × Nat) (picture : Raster Rgb) :
    Option ByteArray :=
  if size.1 = 0 ∨ size.2 = 0 ∨ picture.width = 0 ∨ picture.height = 0 then none
  else (Snapshot.write (picture.fitted size.1 size.2) format).toOption

/-- The boxes of an answer, unless it reports a failure. -/
def boxesOf (result : DetectionResult) : List Detection :=
  if result.errorCode = none ∨ result.errorCode = some 0 then result.detections else []

/-- How a request goes, what is sent, and which boxes there are, where `file` is what there is to
send. -/
inductive Requested (format : SnapshotFormat) (file : Option ByteArray) :
    RequestStatus → List Event → List Detection → Prop where
  /-- There is nothing to send. -/
  | nothingToSend (h : file = none) : Requested format file .encodeFailed [] []
  /-- There is no usable answer. -/
  | noAnswer (octets : ByteArray) (e : ClientError) (h : file = some octets) :
    Requested format file .requestFailed [.submitted octets format.mediaType (.error e)] []
  /-- There is an answer. -/
  | answered (octets : ByteArray) (result : DetectionResult) (h : file = some octets) :
    Requested format file .answered [.submitted octets format.mediaType (.ok result)]
      (boxesOf result)

/-- The surface takes on the size of the first frame of a session. -/
def resizeOps (s : Showing) (frame : Frame Float) : List DrawOp :=
  if s.shown then [] else [.resize frame.picture.width frame.picture.height]

/-- What is done with a frame: the new size if it is the first of its session, what is sent, the
picture, and the boxes. -/
def frameEvents (s : Showing) (size : Nat × Nat) (frame : Frame Float) (sent : List Event)
    (boxes : List Detection) : List Event :=
  (resizeOps s frame).map .drawn ++
    (sent ++ .drawn (.picture frame.picture.width frame.picture.height) ::
      (boxes.flatMap (boxOps size)).map .drawn)

/-- How many outlines are drawn. -/
def boxCount (block : List Event) : Nat :=
  block.countP fun
    | .drawn (.box _) => true
    | _ => false

/-- What an iteration that is made gives back and leaves in the journal, and the view after it. -/
inductive Iteration (format : SnapshotFormat) (v : View) (s : Showing) :
    Except AcquisitionError (Option IterationReport) → List Event → View → Prop where
  /-- There is no frame, and the session is over. -/
  | lost (e : AcquisitionError) :
    Iteration format v s (.error e) [.asked (.error e)] { v with session := none }
  /-- There is a frame. -/
  | shown (frame : Frame Float) (report : IterationReport) (sent : List Event)
      (boxes : List Detection)
      (request : Requested format (payload format (v.sizeFor s frame) frame.picture)
        report.status sent boxes)
      (count : report.boxesDrawn = boxCount (frameEvents s (v.sizeFor s frame) frame sent boxes))
      (time : report.timestamp = frame.timestamp) :
    Iteration format v s (.ok (some report))
      (.asked (.ok frame) :: frameEvents s (v.sizeFor s frame) frame sent boxes)
      { session := some { s with shown := true }, size := v.sizeFor s frame }

/-- What an operation gives back and leaves in the journal, and the view after it. -/
inductive Accounted {κ : Type} (format : SnapshotFormat) (v : View) :
    Op κ → Answer → List Event → View → Prop where
  /-- A session over a device. -/
  | start (constraints : Constraints) (outcome : Except AcquisitionError Unit) :
    Accounted format v (.start constraints) (.opened outcome) [] (v.opened outcome)
  /-- A session over a source. -/
  | startWith (deviceId : String) (source : κ) (outcome : Except AcquisitionError Unit) :
    Accounted format v (.startWith deviceId source) (.opened outcome) [] (v.opened outcome)
  /-- A pause. -/
  | pause : Accounted format v .pause .done [] (v.setPaused true)
  /-- The end of a pause. -/
  | resume : Accounted format v .resume .done [] (v.setPaused false)
  /-- The end of the session. -/
  | stop : Accounted format v .stop .done [] { v with session := none }
  /-- No iteration is made while no frames are taken. -/
  | idle (h : v.isIdle = true) : Accounted format v .step (.stepped (.ok none)) [] v
  /-- An iteration is made otherwise. -/
  | iteration (s : Showing) (outcome : Except AcquisitionError (Option IterationReport))
      (block : List Event) (after : View) (there : v.session = some s) (taking : s.paused = false)
      (h : Iteration format v s outcome block after) :
    Accounted format v .step (.stepped outcome) block after

/-- The journal of a history consists of what its operations leave there, one after the other. -/
inductive Lawful {κ : Type} (format : SnapshotFormat) :
    View → List (Op κ × Answer) → List Event → Prop where
  /-- Nothing was asked. -/
  | nil (v : View) : Lawful format v [] []
  /-- An operation, and what followed. -/
  | cons {v after : View} {op : Op κ} {answer : Answer} {block log : List Event}
      {rest : List (Op κ × Answer)} (first : Accounted format v op answer block after)
      (more : Lawful format after rest log) :
    Lawful format v ((op, answer) :: rest) (block ++ log)

/-! ### Pipelines and views -/

variable {κ δ ω : Type}

/-- The pipeline is as the law has it; a session that is there has not stopped its source. -/
structure Shows (catalog : Catalog) (format : SnapshotFormat) (p : Pipeline Recorder κ δ)
    (v : View) : Prop where
  /-- The devices are those from the beginning. -/
  devices : p.catalog = catalog
  /-- So is the format. -/
  format : p.settings.format = format
  /-- The sessions agree. -/
  session : p.session.map (fun _ => Showing.mk p.paused !p.fitSurface) = v.session
  /-- The sizes agree. -/
  size : Surface.size p.renderer.surface = v.size
  /-- Only a session is paused. -/
  idle : p.session = none → p.paused = false
  /-- A source that was stopped belongs to no session. -/
  alive : ∀ s ∈ p.session, s.stopped = false

variable {catalog : Catalog} {format : SnapshotFormat} {p : Pipeline Recorder κ δ} {v : View}

/-- A session that is new has shown nothing. -/
theorem attach_shows (h : Shows catalog format p v) {s : Session κ} (hs : s.stopped = false) :
    Shows catalog format (p.attach s) { v with session := some {} } := by
  refine ⟨h.devices, h.format, rfl, h.size, (fun hnone => by cases hnone), ?_⟩
  intro t ht
  obtain rfl := Option.some.inj ht
  exact hs

/-- When a session ends the view has none. -/
theorem stop_shows [FrameSource κ ω Float] (h : Shows catalog format p v) (w : ω) :
    Shows catalog format (p.stop w).1 { v with session := none } := by
  unfold stop
  rcases p.session with _ | s
  · exact ⟨h.devices, h.format, rfl, h.size, fun _ => rfl, fun _ hs => by cases hs⟩
  · exact ⟨h.devices, h.format, rfl, h.size, fun _ => rfl, fun _ hs => by cases hs⟩

/-- The session that is there ends, and the view has the new one if it could be started. -/
theorem restart_shows [FrameSource κ ω Float] (h : Shows catalog format p v) (deviceId : String)
    (constraints : Constraints) (source : κ) (w : ω) :
    Shows catalog format (p.restart deviceId constraints source w).2.1
        (v.opened (p.restart deviceId constraints source w).1) ∧
      (p.restart deviceId constraints source w).2.1.renderer.surface = p.renderer.surface := by
  have hstop := stop_shows h w
  have hsurface := p.surface_stop w
  unfold restart
  rcases hstart : Session.start deviceId constraints source (p.stop w).2 with ⟨e | s, w'⟩
  · exact ⟨hstop, hsurface⟩
  · exact ⟨attach_shows hstop (stopped_of_start hstart), hsurface⟩

/-- A session that is there is paused or resumed, and otherwise nothing is. -/
theorem setPaused_shows (h : Shows catalog format p v) {now paused : Bool}
    (hthere : p.session.isSome = true → now = paused) (hnone : p.session = none → now = false) :
    Shows catalog format { p with paused := now } (v.setPaused paused) := by
  refine ⟨h.devices, h.format, ?_, h.size, hnone, h.alive⟩
  have hsession := h.session
  unfold View.setPaused
  rcases hs : p.session with _ | s
  · rw [hs] at hsession
    rw [← hsession]
    rfl
  · rw [hs] at hsession
    rw [← hsession, hthere (by rw [hs]; rfl)]
    rfl

/-- Another state of the session's source makes no difference to the view. -/
theorem session_shows (h : Shows catalog format p v) {session next : Session κ}
    (hthere : p.session = some session) (hnext : next.stopped = false) :
    Shows catalog format { p with session := some next } v := by
  refine ⟨h.devices, h.format, ?_, h.size, (fun hnone => by cases hnone), ?_⟩
  · rw [← h.session, hthere]
    rfl
  · intro t ht
    obtain rfl := Option.some.inj ht
    exact hnext

/-! ### The stages of an iteration -/

/-- An answer reports a failure unless it has no code or the code zero. -/
theorem isError_iff (result : DetectionResult) :
    result.isError = true ↔ ¬(result.errorCode = none ∨ result.errorCode = some 0) := by
  unfold DetectionResult.isError
  rcases result.errorCode with _ | code
  · simp
  · simp

/-- The boxes that are drawn for an answer. -/
theorem boxes_answered (result : DetectionResult) :
    (Overlay.answered result).boxes = boxesOf result := by
  show (if result.isError then [] else result.detections) = boxesOf result
  unfold boxesOf
  by_cases h : result.errorCode = none ∨ result.errorCode = some 0
  · rw [if_pos h, if_neg fun herror => (isError_iff result).mp herror h]
  · rw [if_neg h, if_pos ((isError_iff result).mpr h)]

/-- A snapshot is taken where there is a file to send. -/
theorem take_eq (picture : Raster Rgb) (size : Nat × Nat) (format : SnapshotFormat) :
    (∃ e, Snapshot.take picture size.1 size.2 format = .error e ∧
        payload format size picture = none) ∨
      ∃ octets, Snapshot.take picture size.1 size.2 format =
          .ok { octets, format, width := size.1, height := size.2 } ∧
        payload format size picture = some octets := by
  have hempty : picture.isEmpty = true ↔ picture.width = 0 ∨ picture.height = 0 := by
    unfold Raster.isEmpty
    rw [Bool.or_eq_true, beq_iff_eq, beq_iff_eq]
  unfold Snapshot.take payload
  by_cases h : size.1 = 0 ∨ size.2 = 0 ∨ picture.width = 0 ∨ picture.height = 0
  · left
    have hside : size.1 = 0 ∨ size.2 = 0 ∨ picture.isEmpty = true := by rwa [hempty]
    rw [if_pos hside, if_pos h]
    exact ⟨_, rfl, rfl⟩
  · have hside : ¬(size.1 = 0 ∨ size.2 = 0 ∨ picture.isEmpty = true) := by rwa [hempty]
    rw [if_neg hside, if_neg h]
    rcases Snapshot.write (picture.fitted size.1 size.2) format with e | octets
    · exact .inl ⟨e, rfl, rfl⟩
    · exact .inr ⟨octets, rfl, rfl⟩

/-- The first frame of a session changes the size of the surface, and nothing else does. -/
theorem fit_shows (h : Shows catalog format p v) {s : Showing} (hs : v.session = some s)
    (frame : Frame Float) :
    (p.fit frame).renderer.surface.ops.toList =
        p.renderer.surface.ops.toList ++ resizeOps s frame ∧
      Shows catalog format (p.fit frame)
        { session := some { s with shown := true }, size := v.sizeFor s frame } := by
  have hsession := h.session
  rw [hs, Option.map_eq_some_iff] at hsession
  obtain ⟨session, hthere, rfl⟩ := hsession
  unfold fit View.sizeFor resizeOps
  rcases hfit : p.fitSurface with _ | _
  · refine ⟨(List.append_nil _).symm, h.devices, h.format, ?_, h.size, h.idle, h.alive⟩
    rw [if_neg Bool.false_ne_true, hthere, hfit]
    rfl
  · refine ⟨?_, h.devices, h.format, ?_, rfl, h.idle, h.alive⟩
    · exact Array.toList_push
    · rw [if_pos rfl]
      show p.session.map _ = _
      rw [hthere]
      rfl

/-- Requests are no outlines. -/
theorem boxCount_sent {format : SnapshotFormat} {file : Option ByteArray} {status : RequestStatus}
    {sent : List Event} {boxes : List Detection} (h : Requested format file status sent boxes) :
    boxCount sent = 0 := by
  cases h with
  | nothingToSend _ => rfl
  | noAnswer _ _ _ => rfl
  | answered _ _ _ => rfl

/-- There is one outline for each box. -/
theorem boxCount_boxes (size : Nat × Nat) (boxes : List Detection) :
    boxCount ((boxes.flatMap (boxOps size)).map .drawn) = boxes.length := by
  induction boxes with
  | nil => rfl
  | cons d ds ih =>
    rw [List.flatMap_cons, List.map_append]
    unfold boxCount at ih ⊢
    rw [List.countP_append, ih, List.length_cons, Nat.add_comm]
    rfl

/-- What is done with a frame draws one outline for each box. -/
theorem boxCount_frameEvents {format : SnapshotFormat} {file : Option ByteArray}
    {status : RequestStatus} {sent : List Event} {boxes : List Detection}
    (h : Requested format file status sent boxes) (s : Showing) (size : Nat × Nat)
    (frame : Frame Float) : boxCount (frameEvents s size frame sent boxes) = boxes.length := by
  have hsent := boxCount_sent h
  have hboxes := boxCount_boxes size boxes
  unfold boxCount at hsent hboxes ⊢
  unfold frameEvents
  rw [List.countP_append, List.countP_append, hsent, List.countP_cons_of_neg (by simp), hboxes]
  unfold resizeOps
  by_cases hshown : s.shown = true
  · rw [if_pos hshown, List.map_nil, List.countP_nil]
    omega
  · rw [if_neg hshown, List.map_singleton, List.countP_cons_of_neg (by simp), List.countP_nil]
    omega

variable [DetectionService δ ω]

/-- Asking the service sends what there is to send, and changes nothing on the surface. -/
theorem detect_requested (p : Pipeline Recorder κ δ) (frame : Frame Float) (j : Journal ω) :
    ∃ overlay status detector w sent,
      p.detect frame j = (overlay, status, { p with detector }, j.advance w sent) ∧
      Requested p.settings.format
        (payload p.settings.format (Surface.size p.renderer.surface) frame.picture)
        status sent overlay.boxes := by
  unfold detect
  rcases take_eq frame.picture (Surface.size p.renderer.surface) p.settings.format with
    ⟨e, htake, hfile⟩ | ⟨octets, htake, hfile⟩
  · simp only [htake]
    refine ⟨.failed, .encodeFailed, p.detector, j.world, [], ?_, .nothingToSend hfile⟩
    rw [Journal.advance_nil]
  · simp only [htake, Journal.submit_eq]
    rcases DetectionService.submit octets _ p.detector j.world with ⟨e | result, detector, w⟩
    · exact ⟨.failed, .requestFailed, detector, w, _, rfl, .noAnswer octets e hfile⟩
    · refine ⟨.answered result, .answered, detector, w, _, rfl, ?_⟩
      rw [boxes_answered]
      exact .answered octets result hfile

/-- What is done with a frame. -/
theorem processNoting_shows (h : Shows catalog format p v) {s : Showing} (hs : v.session = some s)
    (frame : Frame Float) (j : Journal ω) :
    ∃ report after w sent boxes,
      p.processNoting frame j = .ok (report, after,
        j.advance w (frameEvents s (v.sizeFor s frame) frame sent boxes)) ∧
      Requested format (payload format (v.sizeFor s frame) frame.picture) report.status sent boxes ∧
      report.boxesDrawn = boxes.length ∧ report.timestamp = frame.timestamp ∧
      Shows catalog format after
        { session := some { s with shown := true }, size := v.sizeFor s frame } := by
  obtain ⟨hgain, hfit⟩ := fit_shows h hs frame
  obtain ⟨overlay, status, detector, w, sent, hdetect, hrequest⟩ :=
    detect_requested (p.fit frame) frame (j.noteDrawing p.renderer (p.fit frame).renderer)
  obtain ⟨report, renderer, hrender, hcount, hsurface⟩ :=
    (p.fit frame).renderer.render_recorder frame overlay
  have hsize := hfit.size
  rw [hfit.format, hsize] at hrequest
  rw [hsize] at hsurface
  -- What each of the three stages draws, as it is taken down.
  have hresize := j.noteDrawing_eq hgain
  have hnothing : ∀ j' : Journal ω, j'.noteDrawing (p.fit frame).renderer (p.fit frame).renderer =
      j' := fun j' => j'.noteDrawing_of_surface_eq rfl
  have hdraw : ∀ j' : Journal ω, j'.noteDrawing (p.fit frame).renderer renderer =
      j'.advance j'.world ((.picture frame.picture.width frame.picture.height ::
        overlay.boxes.flatMap (boxOps (v.sizeFor s frame))).map .drawn) := fun j' =>
    j'.noteDrawing_eq (by rw [hsurface, Recorder.toList_ops_gain])
  have hprocess : p.processNoting frame j = .ok
      (⟨status, report.boxesDrawn, report.fps, frame.timestamp⟩,
        { p.fit frame with detector, renderer },
        j.advance w (frameEvents s (v.sizeFor s frame) frame sent overlay.boxes)) := by
    unfold processNoting
    rw [hresize] at hdetect
    simp only [hresize, hdetect, hnothing, Journal.advance_advance]
    show ((p.fit frame).renderer.render frame overlay >>= _) = _
    rw [hrender]
    show Except.ok (_, _, Journal.noteDrawing _ _ _) = _
    rw [hdraw, Journal.advance_advance, List.append_assoc]
    rfl
  refine ⟨_, _, w, sent, overlay.boxes, hprocess, hrequest, hcount, rfl, ?_⟩
  refine ⟨hfit.devices, hfit.format, hfit.session, ?_, hfit.idle, hfit.alive⟩
  rw [← hsize]
  show Surface.size renderer.surface = _
  rw [hsurface]
  rfl

/-! ### Operations -/

variable [FrameSource κ ω Float]

/-- An operation that is no iteration draws nothing and leaves nothing in the journal. -/
theorem perform_accounted {op : Op κ} (hop : op ≠ .step) (h : Shows catalog format p v)
    {after : Pipeline Recorder κ δ} {w w' : ω} {answer : Answer}
    (hact : perform op p w = .ok (answer, after, w')) :
    ∃ v', Accounted format v op answer [] v' ∧ Shows catalog format after v' ∧
      after.renderer.surface = p.renderer.surface := by
  cases op with
  | start constraints =>
    rw [perform_start] at hact
    rcases hdevice : deviceFor p.catalog p.sourceOf p.settings.rate constraints with
      fault | e | ⟨id, source⟩
    · rw [hdevice] at hact
      cases hact
    · rw [hdevice] at hact
      cases hact
      exact ⟨_, .start constraints (.error e), stop_shows h w, p.surface_stop w⟩
    · rw [hdevice] at hact
      cases hact
      obtain ⟨hshows, hsurface⟩ := restart_shows h id constraints source w
      exact ⟨_, .start constraints _, hshows, hsurface⟩
  | startWith deviceId source =>
    rw [perform_startWith] at hact
    cases hact
    obtain ⟨hshows, hsurface⟩ := restart_shows h deviceId {} source w
    exact ⟨_, .startWith deviceId source _, hshows, hsurface⟩
  | pause =>
    cases hact
    refine ⟨v.setPaused true, .pause, setPaused_shows h ?_ ?_, rfl⟩
    · intro hsome
      rw [hsome, Bool.or_true]
    · intro hnone
      rw [h.idle hnone, hnone]
      rfl
  | resume =>
    cases hact
    refine ⟨v.setPaused false, .resume, setPaused_shows h ?_ ?_, rfl⟩
    · intro hsome
      rw [Option.isNone_eq_false_iff.mpr hsome, Bool.and_false]
    · intro hnone
      rw [h.idle hnone, Bool.false_and]
  | stop =>
    have hstop := stop_shows h w
    have hsurface := p.surface_stop w
    cases hact
    exact ⟨_, .stop, hstop, hsurface⟩
  | step => exact absurd rfl hop

section

variable {session next : Session κ} {j : Journal ω} {w : ω}

/-- An iteration without a frame ends the session. -/
theorem stepNoting_of_error {e : AcquisitionError} (hpaused : p.paused = false)
    (hthere : p.session = some session) (halive : session.stopped = false)
    (hnext : session.next j.world = (.ok (.error e), next, w)) :
    p.stepNoting j = .ok (.error e, ({ p with session := some next }.stop w).1,
      j.advance ({ p with session := some next }.stop w).2 [.asked (.error e)]) := by
  have hsurface : ({ p with session := some next }.stop w).1.renderer.surface =
      p.renderer.surface := surface_stop _ w
  unfold stepNoting
  rw [hpaused] at hsurface ⊢
  rw [hthere]
  simp only [session.next_journal j, hnext, halive, stop_journal]
  exact congrArg (fun j' => Except.ok (Except.error e, _, j'))
    (Journal.noteDrawing_of_surface_eq _ hsurface)

/-- An iteration with a frame goes on with it. -/
theorem stepNoting_of_frame {frame : Frame Float} (hpaused : p.paused = false)
    (hthere : p.session = some session) (halive : session.stopped = false)
    (hnext : session.next j.world = (.ok (.ok frame), next, w)) :
    p.stepNoting j = (processNoting { p with session := some next } frame
      (j.advance w [.asked (.ok frame)])).map fun r => (.ok (some r.1), r.2.1, r.2.2) := by
  unfold stepNoting
  rw [hpaused, hthere]
  simp only [session.next_journal j, hnext, halive]
  show (processNoting { p with session := some next, paused := false } frame
    (j.advance w [.asked (.ok frame)]) >>= _) = _
  rcases processNoting { p with session := some next, paused := false } frame
    (j.advance w [.asked (.ok frame)]) with fault | ⟨report, after, j'⟩
  · rfl
  · rfl

end

/-- Frames are taken, and the picture of the next one is too large for the source that is asked for
it in a world. -/
def NextTooLarge (p : Pipeline Recorder κ δ) (w : ω) : Prop :=
  ∃ session, p.session = some session ∧ p.paused = false ∧ (session.next w).1 = .tooLarge

/-- Such a picture stops the program. -/
theorem stepNoting_of_tooLarge {j : Journal ω} (h : NextTooLarge p j.world) :
    p.stepNoting j = .error .pictureTooLarge := by
  obtain ⟨session, hthere, hpaused, hlarge⟩ := h
  unfold stepNoting
  rw [hpaused, hthere]
  simp only [session.next_journal j, hlarge]

/-- An iteration is made exactly while frames are taken, and leaves one block, unless the program is
stopped. -/
theorem stepNoting_accounted (h : Shows catalog format p v) {j : Journal ω}
    (hroom : ¬NextTooLarge p j.world) :
    ∃ outcome after w block v', p.stepNoting j = .ok (outcome, after, j.advance w block) ∧
      Accounted format v (Op.step : Op κ) (.stepped outcome) block v' ∧
      Shows catalog format after v' := by
  have hsession := h.session
  rcases hthere : p.session with _ | session
  · -- There is no session.
    refine ⟨.ok none, p, j.world, [], v, ?_, .idle ?_, h⟩
    · unfold stepNoting
      rw [h.idle hthere, hthere, j.advance_nil]
    · rw [hthere] at hsession
      unfold View.isIdle
      rw [← hsession]
      rfl
  · rw [hthere] at hsession
    rcases hpaused : p.paused with _ | _
    · -- Frames are taken.
      rw [hpaused] at hsession
      have halive : session.stopped = false := h.alive session hthere
      have hstopped := stopped_next session j.world
      rcases hnext : session.next j.world with ⟨_ | e | frame, next, w⟩
      · exact absurd ⟨session, hthere, hpaused, congrArg Prod.fst hnext⟩ hroom
      · rw [hnext, halive] at hstopped
        have hshows := session_shows h hthere hstopped
        exact ⟨.error e, _, _, _, _, stepNoting_of_error hpaused hthere halive hnext,
          .iteration _ _ _ _ hsession.symm rfl (.lost e), stop_shows hshows w⟩
      · rw [hnext, halive] at hstopped
        have hshows := session_shows h hthere hstopped
        obtain ⟨report, after, w', sent, boxes, hprocess, hrequest, hcount, htime, hafter⟩ :=
          processNoting_shows hshows hsession.symm frame (j.advance w [.asked (.ok frame)])
        rw [← boxCount_frameEvents hrequest] at hcount
        have hblock := Iteration.shown frame report sent boxes hrequest hcount htime
        refine ⟨.ok (some report), after, w', _, _, ?_,
          .iteration _ _ _ _ hsession.symm rfl hblock, hafter⟩
        rw [stepNoting_of_frame hpaused hthere halive hnext, hprocess, Journal.advance_advance]
        rfl
    · -- The session is paused.
      rw [hpaused] at hsession
      refine ⟨.ok none, p, j.world, [], v, ?_, .idle ?_, h⟩
      · unfold stepNoting
        rw [hpaused, hthere, j.advance_nil]
      · unfold View.isIdle
        rw [← hsession]
        rfl

/-- **One step of a history.**  What an operation leaves in the journal is accounted for, and the
pipeline is as the law has it afterwards. -/
theorem performNoting_accounted (h : Shows catalog format p v) {op : Op κ}
    {after : Pipeline Recorder κ δ} {j j' : Journal ω} {answer : Answer}
    (hact : performNoting op p j = .ok (answer, after, j')) :
    ∃ block v', Accounted format v op answer block v' ∧ Shows catalog format after v' ∧
      j'.log = j.log ++ block := by
  by_cases hop : op = .step
  · subst hop
    unfold performNoting at hact
    by_cases hlarge : NextTooLarge p j.world
    · simp only [stepNoting_of_tooLarge hlarge, bind, Except.bind] at hact
      cases hact
    · obtain ⟨outcome, q, w, block, v', hstep, haccount, hshows⟩ := stepNoting_accounted h hlarge
      simp only [hstep, bind, Except.bind] at hact
      cases hact
      exact ⟨block, v', haccount, hshows, rfl⟩
  · rw [performNoting_of_ne hop] at hact
    rcases hperform : perform op p j.world with fault | ⟨answer', after', w⟩
    · rw [hperform] at hact
      cases hact
    · rw [hperform] at hact
      cases hact
      obtain ⟨v', haccount, hshows, hsurface⟩ := perform_accounted hop h hperform
      refine ⟨[], v', haccount, hshows, ?_⟩
      rw [Journal.noteDrawing_of_surface_eq _ hsurface, List.append_nil]

/-- **A whole history.**  What it leaves in the journal is lawful. -/
theorem runWith_lawful (ops : List (Op κ)) (h : Shows catalog format p v) (j : Journal ω) :
    ∃ log, (runWith performNoting ops p j).2.2.log = j.log ++ log ∧
      Lawful format v (runWith performNoting ops p j).1 log := by
  induction ops generalizing p v j with
  | nil => exact ⟨[], (List.append_nil _).symm, .nil v⟩
  | cons op ops ih =>
    unfold runWith
    rcases hact : performNoting op p j with fault | ⟨answer, after, j'⟩
    · exact ⟨[], (List.append_nil _).symm, .nil v⟩
    · obtain ⟨block, v', haccount, hshows, hlog⟩ := performNoting_accounted h hact
      obtain ⟨log, hrest, hlawful⟩ := ih hshows j'
      refine ⟨block ++ log, ?_, .cons haccount hlawful⟩
      show (runWith performNoting ops after j').2.2.log = _
      rw [hrest, hlog, List.append_assoc]

/-- The program is stopped by the search for a device, or by a picture that is too large. -/
theorem cause_of_performNoting_error (h : Shows catalog format p v) {op : Op κ} {j : Journal ω}
    {fault : Fault} (hact : performNoting op p j = .error fault) :
    (∃ constraints, op = .start constraints ∧ catalog.resolve constraints = .error fault) ∨
      (op = .step ∧ NextTooLarge p j.world) := by
  by_cases hop : op = .step
  · subst hop
    refine .inr ⟨rfl, Classical.byContradiction fun hroom => ?_⟩
    obtain ⟨outcome, q, w, block, v', hstep, _⟩ := stepNoting_accounted h hroom
    unfold performNoting at hact
    simp only [hstep, bind, Except.bind] at hact
    cases hact
  · left
    rw [performNoting_of_ne hop] at hact
    cases op with
    | start constraints =>
      rw [perform_start] at hact
      rcases hdevice : deviceFor p.catalog p.sourceOf p.settings.rate constraints with
        fault' | e | ⟨id, source⟩
      · rw [hdevice] at hact
        cases hact
        rw [← h.devices]
        exact ⟨constraints, rfl, resolve_of_deviceFor_error hdevice⟩
      · rw [hdevice] at hact
        cases hact
      · rw [hdevice] at hact
        cases hact
    | startWith _ _ => cases hact
    | pause => cases hact
    | resume => cases hact
    | stop => cases hact
    | step => exact absurd rfl hop

/-- A history is carried out to its end, unless the search for a device or a picture that is too
large stops the program. -/
theorem runWith_complete (ops : List (Op κ)) (h : Shows catalog format p v) (j : Journal ω) :
    let noted := runWith performNoting ops p j
    ∃ rest, ops = noted.1.map Prod.fst ++ rest ∧
      (rest = [] ∨
        (∃ constraints fault later, rest = .start constraints :: later ∧
          catalog.resolve constraints = .error fault) ∨
        ∃ later, rest = .step :: later ∧ NextTooLarge noted.2.1 noted.2.2.world) := by
  induction ops generalizing p v j with
  | nil => exact ⟨[], rfl, .inl rfl⟩
  | cons op ops ih =>
    unfold runWith
    rcases hact : performNoting op p j with fault | ⟨answer, after, j'⟩
    · rcases cause_of_performNoting_error h hact with ⟨constraints, rfl, hresolve⟩ | ⟨rfl, hlarge⟩
      · exact ⟨_, rfl, .inr (.inl ⟨constraints, fault, ops, rfl, hresolve⟩)⟩
      · exact ⟨_, rfl, .inr (.inr ⟨ops, rfl, hlarge⟩)⟩
    · obtain ⟨block, v', _, hshows, _⟩ := performNoting_accounted h hact
      obtain ⟨rest, hops, hrest⟩ := ih hshows j'
      refine ⟨rest, ?_, hrest⟩
      show op :: ops = op :: ((runWith performNoting ops after j').1.map Prod.fst ++ rest)
      rw [← hops]

/-- A new pipeline has no session, and its surface the size that it was given. -/
theorem new_shows (catalog : Catalog) (settings : PipelineSettings)
    (sourceOf : SourceSettings → Except AcquisitionError κ) (detector : δ)
    (renderer : Renderer Recorder) :
    Shows catalog settings.format { catalog, settings, sourceOf, detector, renderer }
      { size := Surface.size renderer.surface } :=
  ⟨rfl, rfl, rfl, rfl, fun _ => rfl, fun _ hs => by cases hs⟩

/-- The journal of every history of a new pipeline consists of one block for each iteration that
was made and nothing else.  It is the journal of what happens without one, and the history goes on
to its end unless the search for a device, or a picture that is too large for its source, stops the
program. -/
theorem journal_of_history (catalog : Catalog) (settings : PipelineSettings)
    (sourceOf : SourceSettings → Except AcquisitionError κ) (detector : δ)
    (renderer : Renderer Recorder) (ops : List (Op κ)) (w : ω) :
    let p : Pipeline Recorder κ δ := { catalog, settings, sourceOf, detector, renderer }
    let noted := runWith performNoting ops p { world := w }
    Lawful settings.format { size := Surface.size renderer.surface } noted.1 noted.2.2.log ∧
      (noted.1, noted.2.1, noted.2.2.world) = runWith perform ops p w ∧
      ∃ rest, ops = noted.1.map Prod.fst ++ rest ∧
        (rest = [] ∨
          (∃ constraints fault later, rest = .start constraints :: later ∧
            catalog.resolve constraints = .error fault) ∨
          ∃ later, rest = .step :: later ∧ NextTooLarge noted.2.1 noted.2.2.world) := by
  intro p noted
  have hnew := new_shows catalog settings sourceOf detector renderer
  obtain ⟨log, hlog, hlawful⟩ := runWith_lawful ops hnew { world := w }
  refine ⟨?_, runWith_performNoting_erase ops p { world := w }, runWith_complete ops hnew _⟩
  have hall : noted.2.2.log = log := hlog.trans (List.nil_append log)
  rw [hall]
  exact hlawful

end Pipeline

end Lookout
