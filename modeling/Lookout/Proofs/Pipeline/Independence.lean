import Lookout.Capture.Source.Synthetic
import Lookout.Proofs.Pipeline.Blocks
import Lookout.Proofs.Pipeline.Likeness
import Lookout.Simulation.World
/-!
# What the detection service can change

The answers of a detection service are drawn over the frames, and that is all that they can change.
Two pipelines with the same devices, sources and requests, but with any two services, go the same
way: `Pipeline.whatever_is_answered`.

What there is to compare is written down as a likeness (`Pipeline.unheeding`).  Sources are equal,
worlds are related by what sources can see of them and hold the same pictures that were sent, and
renderers agree in all but the outlines and labels on the surface (`Renderer.Unmarked`).  It is
lawful because a render pass brings the stream clock and the readouts up to date from the frame
alone, and because the operations that an answer adds to a recorder are outlines and labels.
-/

namespace Lookout

/-! ### What is on the surface beside outlines and labels -/

/-- The operation does not draw the outline or the label of a box. -/
def DrawOp.isBase : DrawOp → Bool
  | .box _ => false
  | .text _ _ _ => false
  | _ => true

namespace Recorder

/-- What was drawn beside outlines and labels of boxes. -/
def baseOps (r : Recorder) : List DrawOp := r.ops.toList.filter DrawOp.isBase

theorem baseOps_gain (r : Recorder) (drawn : List DrawOp) :
    (r.gain drawn).baseOps = r.baseOps ++ drawn.filter DrawOp.isBase := by
  unfold baseOps
  rw [toList_ops_gain, List.filter_append]

theorem baseOps_resize (r : Recorder) (width height : Nat) :
    (Surface.resize width height r).baseOps = r.baseOps ++ [.resize width height] := by
  show ((r.record (.resize width height)).ops.toList.filter DrawOp.isBase) = _
  rw [record_eq_gain]
  exact r.baseOps_gain [.resize width height]

end Recorder

/-- Outlines and labels are drawn for boxes and nothing else. -/
theorem filter_boxOps (size : Nat × Nat) (ds : List Detection) :
    (ds.flatMap (boxOps size)).filter DrawOp.isBase = [] := by
  rw [List.filter_eq_nil_iff]
  intro op hop
  obtain ⟨d, -, hd⟩ := List.mem_flatMap.1 hop
  unfold boxOps at hd
  rcases List.mem_pair.1 hd with rfl | rfl
  · exact Bool.false_ne_true
  · exact Bool.false_ne_true

/-- A frame adds its picture, whatever boxes are drawn over it. -/
theorem Recorder.baseOps_gain_frame (r : Recorder) (width height : Nat) (size : Nat × Nat)
    (ds : List Detection) :
    (r.gain (.picture width height :: ds.flatMap (boxOps size))).baseOps =
      r.baseOps ++ [.picture width height] := by
  rw [baseOps_gain, List.filter_cons_of_pos rfl, filter_boxOps]

namespace Renderer

/-- Renderers that differ in nothing but outlines and labels. -/
structure Unmarked (r₁ r₂ : Renderer Recorder) : Prop where
  /-- The surfaces have the same size. -/
  size : Surface.size r₁.surface = Surface.size r₂.surface
  /-- The same was drawn beside outlines and labels. -/
  base : r₁.surface.baseOps = r₂.surface.baseOps
  /-- The stream clocks are the same. -/
  clock : r₁.clock = r₂.clock
  /-- The readouts are the same. -/
  readouts : r₁.readouts = r₂.readouts

/-- A render pass on a recorder. -/
theorem render_eq (r : Renderer Recorder) (frame : Frame Float) (overlay : Overlay) :
    let surface := r.surface.gain (.picture frame.picture.width frame.picture.height ::
      overlay.boxes.flatMap (boxOps (Surface.size r.surface)))
    r.render frame overlay =
      .ok (⟨overlay.boxes.length, (r.finish surface frame).1⟩, (r.finish surface frame).2) := by
  intro surface
  have hpicture : Surface.drawPicture frame.picture r.surface =
      r.surface.gain [.picture frame.picture.width frame.picture.height] :=
    Recorder.record_eq_gain _ _
  have hboxes := drawBoxes_recorder r.style (Surface.size r.surface) overlay.boxes
    (Surface.drawPicture frame.picture r.surface)
  rw [hpicture, Recorder.gain_gain, List.singleton_append] at hboxes
  unfold render
  rw [hpicture]
  show (drawBoxes r.style (Surface.size r.surface).1 (Surface.size r.surface).2 overlay.boxes
    (r.surface.gain [.picture frame.picture.width frame.picture.height]) >>= _) = _
  rw [hboxes]
  rfl

end Renderer

/-! ### What is sent -/

namespace Journal

variable {κ δ ω : Type}

/-- What was sent to the service, each picture with its media type. -/
def submissions (j : Journal ω) : List (ByteArray × String) :=
  j.log.filterMap fun
    | .submitted octets mediaType _ => some (octets, mediaType)
    | _ => none

theorem submissions_given (j : Journal ω) (w : ω) (delivery : Delivery Float) :
    (j.advance w (Event.given delivery)).submissions = j.submissions := by
  unfold submissions advance
  rw [List.filterMap_append]
  rcases delivery with _ | outcome
  · exact List.append_nil _
  · exact List.append_nil _

theorem submissions_submitted (j : Journal ω) (w : ω) (octets : ByteArray) (mediaType : String)
    (answer : Except ClientError DetectionResult) :
    (j.advance w [.submitted octets mediaType answer]).submissions =
      j.submissions ++ [(octets, mediaType)] := by
  unfold submissions advance
  rw [List.filterMap_append]
  rfl

end Journal

/-! ### Two services -/

/-- Sources do the same in worlds that are related, and leave them related. -/
structure SourcesAgree (κ : Type) {ω₁ ω₂ : Type} [FrameSource κ ω₁ Float] [FrameSource κ ω₂ Float]
    (S : ω₁ → ω₂ → Prop) : Prop where
  /-- When they are connected. -/
  connect : ∀ (source : κ) (w₁ : ω₁) (w₂ : ω₂), S w₁ w₂ →
    (FrameSource.connect source w₁).1 = (FrameSource.connect source w₂).1 ∧
    (FrameSource.connect source w₁).2.1 = (FrameSource.connect source w₂).2.1 ∧
    S (FrameSource.connect source w₁).2.2 (FrameSource.connect source w₂).2.2
  /-- When they are asked for a frame. -/
  next : ∀ (source : κ) (w₁ : ω₁) (w₂ : ω₂), S w₁ w₂ →
    (FrameSource.next source w₁).1 = (FrameSource.next source w₂).1 ∧
    (FrameSource.next source w₁).2.1 = (FrameSource.next source w₂).2.1 ∧
    S (FrameSource.next source w₁).2.2 (FrameSource.next source w₂).2.2
  /-- When they are stopped. -/
  stop : ∀ (source : κ) (w₁ : ω₁) (w₂ : ω₂), S w₁ w₂ →
    (FrameSource.stop source w₁).1 = (FrameSource.stop source w₂).1 ∧
    S (FrameSource.stop source w₁).2 (FrameSource.stop source w₂).2

/-- What services do when they are sent something leaves worlds related. -/
def ServicesKeep (δ₁ δ₂ : Type) {ω₁ ω₂ : Type} [DetectionService δ₁ ω₁] [DetectionService δ₂ ω₂]
    (S : ω₁ → ω₂ → Prop) : Prop :=
  ∀ (octets : ByteArray) (mediaType : String) (d₁ : δ₁) (d₂ : δ₂) (w₁ : ω₁) (w₂ : ω₂), S w₁ w₂ →
    S (DetectionService.submit octets mediaType d₁ w₁).2.2
      (DetectionService.submit octets mediaType d₂ w₂).2.2

/-- Accounts of an iteration that differ in the answer alone: in whether there was one to a request
that was made, and in the boxes that were drawn. -/
structure IterationReport.Unheeding (a b : IterationReport) : Prop where
  /-- A request was made in both or in neither. -/
  asked : a.status = .encodeFailed ↔ b.status = .encodeFailed
  /-- The frame rates are the same. -/
  fps : a.fps = b.fps
  /-- The frames were taken at the same time. -/
  timestamp : a.timestamp = b.timestamp

namespace Pipeline

variable {κ δ₁ δ₂ ω₁ ω₂ : Type}

/-- Pipelines go the same way but for what is drawn for the answers of their services, in worlds
that are related by `S`. -/
def unheeding (κ δ₁ δ₂ : Type) (S : ω₁ → ω₂ → Prop) :
    Likeness Recorder κ δ₁ (Journal ω₁) Recorder κ δ₂ (Journal ω₂) where
  source := (· = ·)
  world j₁ j₂ := S j₁.world j₂.world ∧ j₁.submissions = j₂.submissions
  detector _ _ := True
  renderer := Renderer.Unmarked
  overlay a b := a.2 = .encodeFailed ↔ b.2 = .encodeFailed
  report := IterationReport.Unheeding

/-- What is shown for an answer is not that nothing was asked. -/
theorem shown_ne_encodeFailed (answer : Except ClientError DetectionResult) :
    (shown answer).2 ≠ .encodeFailed := by
  rcases answer with e | result
  · intro h
    cases h
  · intro h
    cases h

section

variable {S : ω₁ → ω₂ → Prop}

/-- The sources of devices are the same as themselves. -/
theorem both_refl (sourceOf : SourceSettings → Except AcquisitionError κ)
    (settings : SourceSettings) : Both (· = ·) (sourceOf settings) (sourceOf settings) := by
  rcases sourceOf settings with e | source
  · exact .failed e
  · exact .come rfl

/-- The same is asked of both. -/
theorem requests_refl (requests : List (Request κ)) :
    List.Forall₂ (unheeding κ δ₁ δ₂ S).Requests requests requests :=
  Likeness.requests_refl (fun _ => rfl) requests

/-- Both pipelines have the same session. -/
theorem session_eq {p₁ : Pipeline Recorder κ δ₁} {p₂ : Pipeline Recorder κ δ₂}
    (h : (unheeding κ δ₁ δ₂ S).Pipelines p₁ p₂) : p₁.session = p₂.session :=
  Likeness.session_eq (fun _ _ => id) h.session

end

variable [FrameSource κ ω₁ Float] [FrameSource κ ω₂ Float] [DetectionService δ₁ ω₁]
  [DetectionService δ₂ ω₂] {S : ω₁ → ω₂ → Prop}

/-- **Nothing that a pipeline does depends on the answers** but what is drawn for them. -/
theorem unheeding_lawful (hsources : SourcesAgree κ S) (hservices : ServicesKeep δ₁ δ₂ S) :
    (unheeding κ δ₁ δ₂ S).Lawful where
  connect := by
    rintro source _ j₁ j₂ rfl ⟨hworld, hsent⟩
    obtain ⟨houtcome, hsource, hworld⟩ := hsources.connect source j₁.world j₂.world hworld
    exact ⟨houtcome, hsource, hworld, hsent⟩
  next := by
    rintro source _ j₁ j₂ rfl ⟨hworld, hsent⟩
    obtain ⟨hdelivery, hsource, hworld⟩ := hsources.next source j₁.world j₂.world hworld
    refine ⟨hdelivery, hsource, hworld, ?_⟩
    exact (j₁.submissions_given _ _).trans (hsent.trans (j₂.submissions_given _ _).symm)
  stop := by
    rintro source _ j₁ j₂ rfl ⟨hworld, hsent⟩
    obtain ⟨hsource, hworld⟩ := hsources.stop source j₁.world j₂.world hworld
    exact ⟨hsource, hworld, hsent⟩
  resetClock h := ⟨h.size, h.base, rfl, h.readouts⟩
  size h := h.size
  resize := by
    intro r₁ r₂ width height h
    refine ⟨rfl, ?_, h.clock, h.readouts⟩
    show (Surface.resize width height r₁.surface).baseOps =
      (Surface.resize width height r₂.surface).baseOps
    rw [Recorder.baseOps_resize, Recorder.baseOps_resize, h.base]
  unasked := Iff.rfl
  submit := by
    rintro d₁ d₂ j₁ j₂ octets mediaType - ⟨hworld, hsent⟩
    refine ⟨?_, trivial, hservices octets mediaType d₁ d₂ _ _ hworld, ?_⟩
    · exact ⟨fun h => absurd h (shown_ne_encodeFailed _),
        fun h => absurd h (shown_ne_encodeFailed _)⟩
    · rw [Journal.submit_eq, Journal.submit_eq, Journal.submissions_submitted,
        Journal.submissions_submitted, hsent]
  render := by
    intro r₁ r₂ a b frame h hasked _
    rw [Renderer.render_eq, Renderer.render_eq]
    have htick : r₁.clock.tick frame.timestamp = r₂.clock.tick frame.timestamp := by rw [h.clock]
    have hfps := congrArg Prod.fst htick
    have hclock := congrArg Prod.snd htick
    refine .come ⟨⟨hasked, hfps, rfl⟩, h.size, ?_, hclock, ?_⟩
    · show Recorder.baseOps (Recorder.gain r₁.surface _) =
        Recorder.baseOps (Recorder.gain r₂.surface _)
      rw [Recorder.baseOps_gain_frame, Recorder.baseOps_gain_frame, h.base]
    · exact congrArg (Readouts.of · frame.metadata) hfps

/-- Two new pipelines over recorders, with sources that do the same in both worlds and with any two
services that leave alone what the sources can see: whatever is asked of them, they give back the
same but for the answers of the services, they have the same session, and their surfaces, stream
clocks and readouts are the same but for outlines and labels.  The same pictures are sent, and a run
from there takes the same course. -/
theorem whatever_is_answered (hsources : SourcesAgree κ S) (hservices : ServicesKeep δ₁ δ₂ S)
    (catalog : Catalog) (settings : PipelineSettings)
    (sourceOf : SourceSettings → Except AcquisitionError κ) (detector₁ : δ₁) (detector₂ : δ₂)
    (renderer : Renderer Recorder) (requests : List (Request κ)) (w₁ : ω₁) (w₂ : ω₂)
    (hworlds : S w₁ w₂) :
    let one := enactAll requests
      { catalog, settings, sourceOf, detector := detector₁, renderer } ({ world := w₁ } : Journal ω₁)
    let other := enactAll requests
      { catalog, settings, sourceOf, detector := detector₂, renderer } ({ world := w₂ } : Journal ω₂)
    List.Forall₂ (Both (unheeding κ δ₁ δ₂ S).Replies) one.1 other.1 ∧
      one.2.1.session = other.2.1.session ∧ one.2.1.paused = other.2.1.paused ∧
      one.2.1.fitSurface = other.2.1.fitSurface ∧
      one.2.1.renderer.Unmarked other.2.1.renderer ∧
      one.2.2.submissions = other.2.2.submissions ∧
      ∀ limit fuel i, (runNoting limit fuel 0 one.2.1 i one.2.2).1 =
        (runNoting limit fuel 0 other.2.1 i other.2.2).1 := by
  intro one other
  have hlawful := unheeding_lawful hsources hservices
  have hnew : (unheeding κ δ₁ δ₂ S).Pipelines
      { catalog, settings, sourceOf, detector := detector₁, renderer }
      { catalog, settings, sourceOf, detector := detector₂, renderer } :=
    ⟨rfl, rfl, both_refl sourceOf, trivial, ⟨rfl, rfl, rfl, rfl⟩, .none, rfl, rfl⟩
  have hbegin : (unheeding κ δ₁ δ₂ S).world { world := w₁ } { world := w₂ } := ⟨hworlds, rfl⟩
  obtain ⟨hreplies, hpipelines, hworld, hsent⟩ :=
    Likeness.enactAll hlawful (requests_refl requests) hnew hbegin
  refine ⟨hreplies, session_eq hpipelines, hpipelines.paused, hpipelines.fitSurface,
    hpipelines.renderer, hsent, ?_⟩
  intro limit fuel i
  exact (Likeness.runNoting hlawful limit fuel 0 hpipelines ⟨hworld, hsent⟩ i).course

end Pipeline

/-! ### A synthetic camera and services on the network -/

section

open Simulation

/-- What a pacer does in a simulated world depends on the clock alone. -/
theorem Pacer.wait_congr (p : Pacer Float) {w₁ w₂ : World Float} (h : w₁.clock = w₂.clock) :
    (p.wait w₁).1 = (p.wait w₂).1 ∧ (p.wait w₁).2.1 = (p.wait w₂).2.1 ∧
      (p.wait w₁).2.2.clock = (p.wait w₂).2.2.clock := by
  obtain ⟨clock, replies₁, requests₁, stops₁⟩ := w₁
  obtain ⟨clock₂, replies₂, requests₂, stops₂⟩ := w₂
  obtain rfl : clock = clock₂ := h
  unfold Pacer.wait
  rcases p.nextDue with _ | due
  · exact ⟨rfl, rfl, rfl⟩
  · dsimp only
    unfold Pacer.sleepUntil
    simp only [Clock.now]
    by_cases hdue : clock.now < due
    · rw [if_pos hdue, if_pos hdue]
      exact ⟨rfl, rfl, rfl⟩
    · rw [if_neg hdue, if_neg hdue]
      exact ⟨rfl, rfl, rfl⟩

namespace SyntheticSource

variable (source : SyntheticSource Float) {w₁ w₂ : World Float}

/-- A synthetic camera is connected by the clock. -/
theorem connect_congr (h : w₁.clock = w₂.clock) :
    (source.connect w₁).1 = (source.connect w₂).1 ∧
      (source.connect w₁).2.1 = (source.connect w₂).2.1 ∧
      (source.connect w₁).2.2.clock = (source.connect w₂).2.2.clock := by
  unfold connect
  by_cases hsize : source.settings.width = 0 ∨ source.settings.height = 0
  · rw [if_pos hsize, if_pos hsize]
    exact ⟨rfl, rfl, h⟩
  · have hnow : (Clock.now w₁).1 = (Clock.now w₂).1 := congrArg ManualClock.now h
    rw [if_neg hsize, if_neg hsize]
    refine ⟨rfl, ?_, h⟩
    dsimp only
    rw [hnow]

/-- A synthetic camera makes its frames by the clock. -/
theorem next_congr (h : w₁.clock = w₂.clock) :
    (source.next w₁).1 = (source.next w₂).1 ∧ (source.next w₁).2.1 = (source.next w₂).2.1 ∧
      (source.next w₁).2.2.clock = (source.next w₂).2.2.clock := by
  obtain ⟨hnow, hpacer, hclock⟩ := source.pacer.wait_congr h
  unfold next
  rcases source.connectedAt with _ | connectedAt
  · exact ⟨rfl, rfl, h⟩
  · dsimp only
    rw [hnow, hpacer]
    by_cases hlarge : octetLimit ≤ source.settings.width * source.settings.height * 3
    · rw [if_pos hlarge, if_pos hlarge]
      exact ⟨rfl, rfl, hclock⟩
    · rw [if_neg hlarge, if_neg hlarge]
      exact ⟨rfl, rfl, hclock⟩

/-- A synthetic camera sees nothing of a simulated world but the clock. -/
theorem agree : SourcesAgree (SyntheticSource Float)
    (fun (w₁ w₂ : World Float) => w₁.clock = w₂.clock) :=
  ⟨fun source _ _ => source.connect_congr, fun source _ _ => source.next_congr,
    fun _ _ _ h => ⟨rfl, h⟩⟩

end SyntheticSource

/-- An exchange with a server takes no time in a simulated world. -/
theorem Simulation.World.clock_send (address : String) (make : Url → Net.Request)
    (w : World Float) : (Net.send address make w).2.clock = w.clock := by
  have hexchange (r : Net.Request) : (Net.Network.exchange r w).2.clock = w.clock := by
    show (World.exchange r w).2.clock = w.clock
    unfold World.exchange
    rcases w.replies with _ | ⟨_ | _, replies⟩
    · rfl
    · rfl
    · rfl
  unfold Net.send
  rcases Net.webAddress address with cause | url
  · rfl
  · have hclock := hexchange (make url)
    dsimp only
    generalize Net.Network.exchange (make url) w = x at hclock ⊢
    obtain ⟨cause | response, v⟩ := x
    · exact hclock
    · dsimp only
      by_cases hstatus : 400 ≤ response.status
      · rw [if_pos hstatus]
        exact hclock
      · rw [if_neg hstatus]
        exact hclock

/-- A service leaves the clock of a simulated world alone. -/
theorem Detector.clock_submit (octets : ByteArray) (mediaType : String) (d : Detector)
    (w : World Float) : (d.submit octets mediaType w).2.2.clock = w.clock := by
  cases d with
  | stub requests => rfl
  | remote settings =>
    have hclock : (Detector.post settings octets mediaType w).2.clock = w.clock := by
      have hsend := World.clock_send settings.url (fun url =>
        { method := .post, url, contentType := some mediaType, body := octets,
          timeout := some settings.timeout }) w
      unfold Detector.post Net.post
      generalize Net.send settings.url _ w = x at hsend ⊢
      obtain ⟨failure | response, v⟩ := x
      · exact hsend
      · dsimp only
        by_cases hsuccess : response.isSuccess = true
        · rw [if_pos hsuccess]
          exact hsend
        · rw [if_neg hsuccess]
          exact hsend
    exact hclock

/-- Two services leave the clocks of two simulated worlds alone. -/
theorem Detector.keep : ServicesKeep Detector Detector
    (fun (w₁ w₂ : World Float) => w₁.clock = w₂.clock) := by
  intro octets mediaType d₁ d₂ w₁ w₂ h
  exact (d₁.clock_submit octets mediaType w₁).trans
    (h.trans (d₂.clock_submit octets mediaType w₂).symm)

/-- A synthetic camera, with the service that finds nothing and with one on the network that does
not answer. -/
theorem Pipeline.whatever_detectors_answer :
    let sourceOf (settings : SourceSettings) :
        Except AcquisitionError (SyntheticSource Float) := .ok (.ofSettings settings)
    let requests : List (Pipeline.Request (SyntheticSource Float)) :=
      [.act (.start {}), .run (some 2) 3 { queue := [.pause, .resume] }]
    let one := Pipeline.enactAll requests
      { catalog := ⟨[syntheticDevice]⟩, settings := {}, sourceOf, detector := Detector.stub 0,
        renderer := { surface := ({} : Recorder) } }
      ({ world := World.start [] } : Journal (World Float))
    let other := Pipeline.enactAll requests
      { catalog := ⟨[syntheticDevice]⟩, settings := {}, sourceOf, detector := Detector.remote {},
        renderer := { surface := ({} : Recorder) } }
      ({ world := World.start [.drop] } : Journal (World Float))
    SourcesAgree (SyntheticSource Float) (fun (w₁ w₂ : World Float) => w₁.clock = w₂.clock) ∧
      ServicesKeep Detector Detector (fun (w₁ w₂ : World Float) => w₁.clock = w₂.clock) ∧
      (World.start [] : World Float).clock = (World.start [.drop] : World Float).clock ∧
      one.2.1.session = other.2.1.session ∧ one.2.1.renderer.Unmarked other.2.1.renderer ∧
      one.2.2.submissions = other.2.2.submissions := by
  obtain ⟨-, hsession, -, -, hrenderer, hsent, -⟩ :=
    Pipeline.whatever_is_answered SyntheticSource.agree Detector.keep ⟨[syntheticDevice]⟩ {}
      (fun settings => .ok (.ofSettings settings)) (.stub 0) (.remote {}) { surface := {} }
      [.act (.start {}), .run (some 2) 3 { queue := [.pause, .resume] }] (World.start [])
      (World.start [.drop]) rfl
  exact ⟨SyntheticSource.agree, Detector.keep, rfl, hsession, hrenderer, hsent⟩

end

end Lookout
