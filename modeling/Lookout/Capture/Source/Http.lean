import Lookout.Capture.Pacer
import Lookout.Capture.Source
import Lookout.Capture.Source.Mjpeg
import Lookout.Net.Client
import Lookout.Picture.Codec
import Lookout.Text.Lowercase
/-!
# Cameras on the network

A camera on the network either sends its pictures one after the other in a single answer, or one
picture whenever it is asked.  Which of the two is told by the media type of its first answer.  Of
a stream of pictures those that come too early for the rate are passed over; a camera that is asked
is asked when the next frame is due.
-/

namespace Lookout

/-- How the pictures come. -/
inductive HttpStream where
  /-- One after the other. -/
  | mjpeg (stream : MjpegStream)
  /-- One whenever it is asked for. -/
  | single

/-- A camera on the network. -/
structure HttpSource (τ : Type) where
  /-- What it is to deliver. -/
  settings : SourceSettings
  /-- Reads its pictures. -/
  decode : Picture.Reader
  /-- Keeps to the rate. -/
  pacer : Pacer τ
  /-- How the pictures come, while it is connected. -/
  stream : Option HttpStream := none
  /-- When it was connected. -/
  connectedAt : Option τ := none
  /-- When the last frame was delivered. -/
  lastFrameAt : Option τ := none
  /-- How many frames it has delivered. -/
  frameCount : Nat := 0

namespace HttpSource

variable {τ : Type}

/-- A camera that has not been connected, with a way to read its pictures. -/
def ofSettings (settings : SourceSettings) (decode : Picture.Reader := Picture.read) :
    HttpSource τ where
  settings := settings
  decode := decode
  pacer := { interval := frameInterval settings.rate }

/-- The name of the camera. -/
def url (s : HttpSource τ) : String := s.settings.url

/-- A failure of the camera while something was done with it. -/
def failure (s : HttpSource τ) (action reason : String) : AcquisitionError :=
  .source s!"{action} {s.url}: {reason}"

/-- What it has done so far. -/
def stats (s : HttpSource τ) : SourceStats := ⟨s.frameCount, s.url⟩

/-- End the stream. -/
def stop (s : HttpSource τ) : HttpSource τ :=
  if s.stream.isSome then { s with stream := none, connectedAt := none } else s

/-- A text occurs in another one. -/
def occursIn (part : List Char) : List Char → Bool
  | [] => part.isEmpty
  | c :: cs => part.isPrefixOf (c :: cs) || occursIn part cs

/-- How the pictures come, by an answer. -/
def streamOf (r : Net.Response) : HttpStream :=
  let mediaType := Text.lowercase (r.contentType.getD "")
  if occursIn "multipart".toList mediaType.toList then .mjpeg (.ofBody r.body) else .single

/-- The most octets of a picture that was asked for. -/
def pictureLimit : Nat := Lookout.pictureLimit

/-- How long a camera counts as healthy after a frame: six times the time between frames, and at
least two seconds. -/
def grace (rate : Nat) : Span := .ofMillis (max (if rate = 0 then 2000 else 1000 / rate * 6) 2000)

/-- How long a camera counts as healthy after it was connected. -/
def connectGrace : Span := .ofMillis 5000

variable [Timeline τ]

/-- The frame of a picture that was received at a time. -/
def deliver (s : HttpSource τ) (octets : ByteArray) (now : τ) :
    Except AcquisitionError (Frame τ) × HttpSource τ :=
  match s.decode octets with
  | .error reason => (.error (s.failure "decode frame" reason), s)
  | .ok picture =>
    let frame : Frame τ := {
      picture
      timestamp := now
      metadata := {
        presentedFrames := s.frameCount + 1
        presentationTime := now
        mediaTime := Timeline.seconds (now - s.connectedAt.getD now)
        width := picture.width
        height := picture.height
        source := s.url } }
    (.ok frame, { s with frameCount := s.frameCount + 1, lastFrameAt := some now })

variable {ω : Type} [Clock ω τ]

/-- The next picture of a stream that is due, and when it came; pictures that come before they are
due are passed over. -/
def nextDue (p : Pacer τ) (stream : MjpegStream) (w : ω) :
    Except AcquisitionError (List UInt8 × τ) × Pacer τ × MjpegStream × ω :=
  match _h : stream.next with
  | (.error e, stream) => (.error e, p, stream, w)
  | (.ok picture, rest) =>
    let (now, w) := Clock.now w
    if p.isDue now then (.ok (picture, now), p.claim now, rest, w) else nextDue p rest w
termination_by MjpegStream.remaining stream.buffer stream.chunks
decreasing_by exact MjpegStream.remaining_read_lt _h

/-- The camera still delivers. -/
def isHealthy (s : HttpSource τ) (w : ω) : Bool × ω :=
  match s.connectedAt with
  | none => (false, w)
  | some connectedAt =>
    let (now, w) := Clock.now w
    let healthy := match s.lastFrameAt with
      | some last => decide (now - last ≤ Timeline.ofSpan (grace s.settings.rate))
      | none => decide (now - connectedAt ≤ Timeline.ofSpan connectGrace)
    (healthy, w)

variable [Net.Network ω]

/-- Ask the camera for a picture. -/
def fetch (s : HttpSource τ) (w : ω) : Except AcquisitionError ByteArray × ω :=
  match Net.get s.url none w with
  | (.error failure, w) => (.error (s.failure "fetch snapshot" failure.message), w)
  | (.ok response, w) =>
    match response.body.take pictureLimit with
    | none => (.error (s.failure "read snapshot" Net.cutMessage), w)
    | some octets =>
      if octets.isEmpty then (.error (.source s!"empty snapshot from {s.url}"), w)
      else (.ok octets, w)

/-- Begin a stream.  A camera that is connected already keeps its stream if this fails. -/
def connect (s : HttpSource τ) (w : ω) : Except AcquisitionError Unit × HttpSource τ × ω :=
  match Net.get s.url none w with
  | (.error failure, w) => (.error (s.failure "connect" failure.message), s, w)
  | (.ok response, w) =>
    let (now, w) := Clock.now w
    (.ok (), { s with
      stream := some (streamOf response)
      connectedAt := some now
      pacer := s.pacer.reset }, w)

/-- Wait for the next frame. -/
def next (s : HttpSource τ) (w : ω) : Except AcquisitionError (Frame τ) × HttpSource τ × ω :=
  match s.stream with
  | none => (.error .notConnected, s, w)
  | some (.mjpeg stream) =>
    let (found, pacer, stream, w) := nextDue s.pacer stream w
    let s := { s with pacer, stream := some (.mjpeg stream) }
    match found with
    | .error e => (.error e, s, w)
    | .ok (picture, now) =>
      let (frame, s) := s.deliver ⟨picture.toArray⟩ now
      (frame, s, w)
  | some .single =>
    let (now, pacer, w) := s.pacer.wait w
    let s := { s with pacer }
    match s.fetch w with
    | (.error e, w) => (.error e, s, w)
    | (.ok octets, w) =>
      let (frame, s) := s.deliver octets now
      (frame, s, w)

instance : DescribedSource (HttpSource τ) where
  describe := url
  stats := stats

instance : FrameSource (HttpSource τ) ω τ where
  connect := connect
  next s w := let (frame, s, w) := s.next w; (.ok frame, s, w)
  stop s w := (s.stop, w)
  isHealthy := isHealthy

end HttpSource

end Lookout
