import Lookout.Proofs.Capture.Calls
import Lookout.Proofs.Capture.MadeUp
/-!
# What a camera can do

Everything that a single call to a camera can come to, once for each kind of camera: what came of
the call, and the camera that it left (`SyntheticSource.step`, `HttpSource.step`).  All that is said
about runs of a camera is read off these cases; nothing else looks into the sources.

* A frame is delivered, or lost, only at a time that the pacer grants (`Pacer.Grants`), and the
  pacer then claims that time.  A frame that is too large to be made up is lost with the program.
* A connection begins with a pacer that has no next frame in view.  That is all that it resets: the
  count of frames and the time of the last one stay as they were.
-/

namespace Lookout

variable {τ ω : Type} [Timeline τ] [Clock ω τ]

/-- A time at which a frame may be delivered: it is due then, or it was waited for. -/
def Pacer.Grants (ω : Type) [Clock ω τ] (p : Pacer τ) (now : τ) : Prop :=
  p.isDue now = true ∨ ∃ w : ω, (p.wait w).1 = now

/-! ### Cameras that make their frames up -/

namespace SyntheticSource

open Capture (Op)

/-- What a call can come to. -/
inductive Step (ω : Type) [Clock ω τ] (s : SyntheticSource τ) :
    Capture.Event τ → SyntheticSource τ → Prop where
  /-- There is no room for pixels. -/
  | refused (cause : AcquisitionError) : Step ω s (.refused cause) s
  /-- A stream begins. -/
  | connected (now : τ) :
    Step ω s .connected { s with connectedAt := some now, pacer := s.pacer.reset }
  /-- There is no stream. -/
  | unconnected : Step ω s (.failed .notConnected) s
  /-- There is a frame. -/
  | delivered (frame : Frame τ) (granted : s.pacer.Grants ω frame.timestamp)
    (number : frame.metadata.presentedFrames = s.frameCount + 1) :
    Step ω s (.delivered frame) { s with
      pacer := s.pacer.claim frame.timestamp
      scene := s.nextScene
      frameCount := s.frameCount + 1 }
  /-- The next picture is too large, and the program stops. -/
  | broken (now : τ) (granted : s.pacer.Grants ω now)
    (large : octetLimit ≤ s.settings.width * s.settings.height * 3) :
    Step ω s .broken { s with
      pacer := s.pacer.claim now
      scene := s.nextScene }
  /-- The stream ends. -/
  | stopped : Step ω s .stopped s.stop

/-- What comes of a connection that is asked for. -/
theorem perform_connect (s : SyntheticSource τ) (w : ω) : Op.connect.perform s w =
    (.ofConnect (s.connect w).1, (s.connect w).2.1, (s.connect w).2.2) := rfl

/-- What comes of a frame that is asked for. -/
theorem perform_next (s : SyntheticSource τ) (w : ω) : Op.next.perform s w =
    (.ofNext (s.next w).1, (s.next w).2.1, (s.next w).2.2) := rfl

/-- Without a stream there is no frame. -/
theorem next_of_closed {s : SyntheticSource τ} (h : s.connectedAt = none) (w : ω) :
    s.next w = (.ok (.error .notConnected), s, w) := by
  unfold next
  rw [h]

omit [Clock ω τ] in
/-- The octets that are made up are always as many as the picture of the frame takes. -/
theorem exists_nextFrame (s : SyntheticSource τ) (connectedAt now : τ) :
    ∃ frame : Frame τ, s.nextFrame connectedAt now = .ok frame ∧ frame.timestamp = now ∧
      frame.metadata.presentedFrames = s.frameCount + 1 ∧ frame.picture = s.nextPicture := by
  unfold nextFrame Frame.ofOctets?
  rw [ofOctets?_nextOctets]
  exact ⟨_, rfl, rfl, rfl, rfl⟩

section stream

variable {s : SyntheticSource τ} {connectedAt : τ}

/-- While there is a stream, there is a frame for whoever waits, if there is room for it. -/
theorem next_of_connected (h : s.connectedAt = some connectedAt)
    (hroom : s.settings.width * s.settings.height * 3 < octetLimit) (w : ω) :
    ∃ frame : Frame τ, s.next w = (.ok (.ok frame), { s with
        pacer := s.pacer.claim frame.timestamp
        scene := s.nextScene
        frameCount := s.frameCount + 1 }, (s.pacer.wait w).2.2) ∧
      frame.timestamp = (s.pacer.wait w).1 ∧
      frame.metadata.presentedFrames = s.frameCount + 1 ∧
      frame.picture = s.nextPicture := by
  obtain ⟨frame, hframe, htime, hnumber, hpicture⟩ :=
    s.exists_nextFrame connectedAt (s.pacer.wait w).1
  refine ⟨frame, ?_, htime, hnumber, hpicture⟩
  unfold next
  simp only [h, hframe, htime]
  rw [if_neg (Nat.not_le_of_lt hroom)]
  rfl

/-- If there is none, the program stops, and that only after the wait. -/
theorem next_of_large (h : s.connectedAt = some connectedAt)
    (hlarge : octetLimit ≤ s.settings.width * s.settings.height * 3) (w : ω) :
    s.next w = (.tooLarge, { s with
        pacer := s.pacer.claim (s.pacer.wait w).1
        scene := s.nextScene }, (s.pacer.wait w).2.2) := by
  unfold next
  simp only [h]
  rw [if_pos hlarge]
  rfl

end stream

/-- Every call comes to one of these. -/
theorem step (s : SyntheticSource τ) (w : ω) (op : Op) :
    s.Step ω (op.perform s w).1 (op.perform s w).2.1 := by
  cases op with
  | connect =>
    rw [perform_connect]
    unfold connect
    by_cases hroom : s.settings.width = 0 ∨ s.settings.height = 0
    · rw [if_pos hroom]
      exact .refused _
    · rw [if_neg hroom]
      exact .connected _
  | next =>
    rw [perform_next]
    rcases hconnected : s.connectedAt with _ | connectedAt
    · rw [next_of_closed hconnected]
      exact .unconnected
    · rcases Nat.lt_or_ge (s.settings.width * s.settings.height * 3) octetLimit with hroom | hlarge
      · obtain ⟨frame, hnext, htime, hnumber, -⟩ := next_of_connected hconnected hroom w
        rw [hnext]
        exact .delivered frame (Or.inr ⟨w, htime.symm⟩) hnumber
      · rw [next_of_large hconnected hlarge]
        exact .broken _ (Or.inr ⟨w, rfl⟩) hlarge
  | stop => exact .stopped

end SyntheticSource

/-! ### Cameras on the network -/

namespace HttpSource

open Capture (Op)

omit [Timeline τ] [Clock ω τ] in
/-- A camera that is stopped keeps its pacer. -/
@[simp] theorem pacer_stop (s : HttpSource τ) : s.stop.pacer = s.pacer := by
  unfold stop
  split <;> rfl

omit [Timeline τ] [Clock ω τ] in
/-- And it keeps its count of frames. -/
@[simp] theorem frameCount_stop (s : HttpSource τ) : s.stop.frameCount = s.frameCount := by
  unfold stop
  split <;> rfl

section scan

variable {p p' : Pacer τ} {stream rest : MjpegStream} {w w' : ω}

/-- The next picture that is due comes at a time that the pacer grants and claims. -/
theorem nextDue_eq_ok {picture : List UInt8} {now : τ}
    (h : nextDue p stream w = (.ok (picture, now), p', rest, w')) :
    p.isDue now = true ∧ p' = p.claim now := by
  fun_induction nextDue p stream w with
  | case1 => simp at h
  | case2 stream w found rest' _ now' w'' _ hdue =>
    simp only [Prod.mk.injEq, Except.ok.injEq] at h
    obtain ⟨⟨-, rfl⟩, rfl, -, -⟩ := h
    exact ⟨hdue, rfl⟩
  | case3 stream w found rest' _ now' w'' _ hdue ih => exact ih h

/-- Where no picture is due any more, the pacer is left alone. -/
theorem nextDue_eq_error {cause : AcquisitionError}
    (h : nextDue p stream w = (.error cause, p', rest, w')) : p' = p := by
  fun_induction nextDue p stream w with
  | case1 stream w e rest' _ =>
    simp only [Prod.mk.injEq] at h
    exact h.2.1.symm
  | case2 stream w found rest' _ now' w'' _ hdue => simp at h
  | case3 stream w found rest' _ now' w'' _ hdue ih => exact ih h

end scan

variable [Net.Network ω]

/-- What comes of a connection that is asked for. -/
theorem perform_connect (s : HttpSource τ) (w : ω) : Op.connect.perform s w =
    (.ofConnect (s.connect w).1, (s.connect w).2.1, (s.connect w).2.2) := rfl

/-- What comes of a frame that is asked for. -/
theorem perform_next (s : HttpSource τ) (w : ω) : Op.next.perform s w =
    (.ofNext (.ok (s.next w).1), (s.next w).2.1, (s.next w).2.2) := rfl

/-- What comes of a stop. -/
theorem perform_stop (s : HttpSource τ) (w : ω) : Op.stop.perform s w = (.stopped, s.stop, w) :=
  rfl

/-- When a connection that is asked for in a world counts as made: once the server has answered. -/
def answeredAt (url : String) (w : ω) : τ := (Clock.now (Net.get url none w).2).1

/-- What a call in a world can come to. -/
inductive Step (s : HttpSource τ) (w : ω) : Capture.Event τ → HttpSource τ → Prop where
  /-- The server did not answer as it should. -/
  | refused (cause : AcquisitionError) : Step s w (.refused cause) s
  /-- A stream begins. -/
  | connected (stream : HttpStream) :
    Step s w .connected { s with
      stream := some stream
      connectedAt := some (answeredAt s.url w)
      pacer := s.pacer.reset }
  /-- There is no stream. -/
  | unconnected : Step s w (.failed .notConnected) s
  /-- The stream has no picture that is due. -/
  | exhausted (cause : AcquisitionError) (stream : HttpStream) (hopen : s.stream.isSome) :
    Step s w (.failed cause) { s with stream := some stream }
  /-- The picture for the frame that is due could not be had or read. -/
  | lost (cause : AcquisitionError) (stream : HttpStream) (now : τ) (hopen : s.stream.isSome)
    (granted : s.pacer.Grants ω now) :
    Step s w (.failed cause) { s with pacer := s.pacer.claim now, stream := some stream }
  /-- There is a frame. -/
  | delivered (frame : Frame τ) (stream : HttpStream) (hopen : s.stream.isSome)
    (granted : s.pacer.Grants ω frame.timestamp)
    (number : frame.metadata.presentedFrames = s.frameCount + 1) :
    Step s w (.delivered frame) { s with
      pacer := s.pacer.claim frame.timestamp
      stream := some stream
      frameCount := s.frameCount + 1
      lastFrameAt := some frame.timestamp }
  /-- The stream, if there is one, ends. -/
  | stopped : Step s w .stopped s.stop

omit [Clock ω τ] [Net.Network ω] in
/-- Received octets are a frame, or the camera is left alone. -/
theorem deliver_cases (s : HttpSource τ) (octets : ByteArray) (now : τ) :
    (∃ cause, s.deliver octets now = (.error cause, s)) ∨
      ∃ frame : Frame τ, s.deliver octets now =
          (.ok frame, { s with frameCount := s.frameCount + 1, lastFrameAt := some now }) ∧
        frame.timestamp = now ∧ frame.metadata.presentedFrames = s.frameCount + 1 := by
  unfold deliver
  cases s.decode octets with
  | error reason => exact Or.inl ⟨_, rfl⟩
  | ok picture => exact Or.inr ⟨_, rfl, rfl, rfl⟩

/-- What octets come to that were received at a time which the pacer had granted. -/
theorem step_of_deliver {s s' : HttpSource τ} (w : ω) {stream : HttpStream} {now : τ}
    {octets : ByteArray} {outcome : Except AcquisitionError (Frame τ)} (hopen : s.stream.isSome)
    (granted : s.pacer.Grants ω now)
    (h : deliver { s with pacer := s.pacer.claim now, stream := some stream } octets now =
      (outcome, s')) : s.Step w (.ofNext (.ok outcome)) s' := by
  rcases deliver_cases { s with pacer := s.pacer.claim now, stream := some stream } octets now with
    ⟨cause, hlost⟩ | ⟨frame, hframe, rfl, hnumber⟩
  · obtain ⟨rfl, rfl⟩ := Prod.mk.inj (hlost.symm.trans h)
    exact .lost cause stream now hopen granted
  · obtain ⟨rfl, rfl⟩ := Prod.mk.inj (hframe.symm.trans h)
    exact .delivered frame stream hopen granted hnumber

section next

variable {s s' : HttpSource τ} {w w' : ω} {stream rest : MjpegStream} {p : Pacer τ}

/-- Without a stream there is no frame. -/
theorem next_of_closed (h : s.stream = none) (w : ω) : s.next w = (.error .notConnected, s, w) := by
  unfold next
  simp only [h]

/-- Where no picture of the stream is due, there is no frame. -/
theorem next_of_exhausted {cause : AcquisitionError} (hstream : s.stream = some (.mjpeg stream))
    (h : nextDue s.pacer stream w = (.error cause, p, rest, w')) :
    s.next w = (.error cause, { s with pacer := p, stream := some (.mjpeg rest) }, w') := by
  unfold next
  simp only [hstream, h]

/-- The next picture of the stream that is due is delivered. -/
theorem next_of_due {picture : List UInt8} {now : τ}
    {outcome : Except AcquisitionError (Frame τ)} (hstream : s.stream = some (.mjpeg stream))
    (h : nextDue s.pacer stream w = (.ok (picture, now), p, rest, w'))
    (hdeliver : deliver { s with pacer := p, stream := some (.mjpeg rest) } ⟨picture.toArray⟩ now =
      (outcome, s')) : s.next w = (outcome, s', w') := by
  unfold next
  simp only [hstream, h, hdeliver]

/-- A picture that was waited for and could not be had. -/
theorem next_of_unfetched {cause : AcquisitionError} (hstream : s.stream = some .single)
    (h : fetch { s with pacer := (s.pacer.wait w).2.1 } (s.pacer.wait w).2.2 =
      (.error cause, w')) :
    s.next w = (.error cause, { s with pacer := (s.pacer.wait w).2.1 }, w') := by
  rw [hstream] at h
  unfold next
  simp only [hstream, h]

/-- A picture that was waited for and could be had is delivered. -/
theorem next_of_fetched {octets : ByteArray} {outcome : Except AcquisitionError (Frame τ)}
    (hstream : s.stream = some .single)
    (h : fetch { s with pacer := (s.pacer.wait w).2.1 } (s.pacer.wait w).2.2 = (.ok octets, w'))
    (hdeliver : deliver { s with pacer := (s.pacer.wait w).2.1 } octets (s.pacer.wait w).1 =
      (outcome, s')) : s.next w = (outcome, s', w') := by
  rw [hstream] at h hdeliver
  unfold next
  simp only [hstream, h, hdeliver]

end next

/-- Every call comes to one of these. -/
theorem step (s : HttpSource τ) (w : ω) (op : Op) :
    s.Step w (op.perform s w).1 (op.perform s w).2.1 := by
  cases op with
  | connect =>
    rw [perform_connect]
    have hnow : (answeredAt s.url w : τ) = (Clock.now (Net.get s.url none w).2).1 := rfl
    have hconnected := Step.connected (s := s) (w := w)
    rw [hnow] at hconnected
    unfold connect
    rcases hget : Net.get s.url none w with ⟨failure | response, w'⟩
    · exact .refused _
    · rw [hget] at hconnected
      exact hconnected _
  | next =>
    rw [perform_next]
    rcases hstream : s.stream with _ | stream | _
    · rw [next_of_closed hstream]
      exact .unconnected
    · have hopen : s.stream.isSome := by rw [hstream]; rfl
      rcases hfound : nextDue s.pacer stream w with ⟨cause | ⟨picture, now⟩, p, rest, w'⟩
      · rw [next_of_exhausted hstream hfound, nextDue_eq_error hfound]
        exact .exhausted cause _ hopen
      · obtain ⟨hdue, rfl⟩ := nextDue_eq_ok hfound
        rcases hdeliver : deliver
          { s with pacer := s.pacer.claim now, stream := some (.mjpeg rest) }
          ⟨picture.toArray⟩ now with ⟨outcome, s'⟩
        rw [next_of_due hstream hfound hdeliver]
        exact step_of_deliver w hopen (Or.inl hdue) hdeliver
    · have hopen : s.stream.isSome := by rw [hstream]; rfl
      have hgranted : s.pacer.Grants ω (s.pacer.wait w).1 := Or.inr ⟨w, rfl⟩
      have hclaimed : ({ s with pacer := (s.pacer.wait w).2.1 } : HttpSource τ) =
          { s with pacer := s.pacer.claim (s.pacer.wait w).1, stream := some .single } := by
        rw [← hstream]
        rfl
      rcases hfetch : fetch { s with pacer := (s.pacer.wait w).2.1 } (s.pacer.wait w).2.2 with
        ⟨cause | octets, w'⟩
      · rw [next_of_unfetched hstream hfetch, hclaimed]
        exact .lost cause _ _ hopen hgranted
      · rcases hdeliver : deliver { s with pacer := (s.pacer.wait w).2.1 } octets
          (s.pacer.wait w).1 with ⟨outcome, s'⟩
        rw [next_of_fetched hstream hfetch hdeliver]
        rw [hclaimed] at hdeliver
        exact step_of_deliver w hopen hgranted hdeliver
  | stop => exact .stopped

end HttpSource

end Lookout
