import Lookout.Capture.Pacer
import Lookout.Capture.Source
import Lookout.Fault
/-!
# The synthetic source

The synthetic source needs no camera: it makes up a moving gradient with a little noise.  The scene
changes with every fiftieth frame.  There is no limit to the size that can be asked for, and for a
picture that is too large to be held the program stops.
-/

namespace Lookout

/-- A source of made-up frames. -/
structure SyntheticSource (τ : Type) where
  /-- What it is to deliver. -/
  settings : SourceSettings
  /-- Noise: an amount for each pixel ever made, by its number; only the lowest two bits count. -/
  noise : Nat → UInt8 := fun _ => 0
  /-- Keeps to the rate. -/
  pacer : Pacer τ
  /-- When it was connected, while it is. -/
  connectedAt : Option τ := none
  /-- How many frames it has delivered. -/
  frameCount : Nat := 0
  /-- The present scene. -/
  scene : UInt8 := 0

namespace SyntheticSource

variable {τ : Type}

/-- A source that has not been connected. -/
def ofSettings (settings : SourceSettings) : SyntheticSource τ where
  settings := settings
  pacer := { interval := frameInterval settings.rate }

/-- The scene of the next frame. -/
def nextScene (s : SyntheticSource τ) : UInt8 :=
  if s.frameCount % 50 = 0 then s.scene + 1 else s.scene

/-- The pixel in column `x` and row `y` of the next frame. -/
def pixel (s : SyntheticSource τ) (x y : Nat) : Rgb :=
  let shift := s.frameCount + s.nextScene.toNat
  let area := s.settings.width * s.settings.height
  let amount := s.noise (s.frameCount * area + y * s.settings.width + x)
  ⟨(x + shift).toUInt8 ^^^ (amount &&& 3), (y + shift).toUInt8, s.nextScene * 40⟩

/-- The octets of the next picture: three for each pixel, pixel by pixel. -/
def nextOctets (s : SyntheticSource τ) : ByteArray :=
  let width := s.settings.width
  let count := width * s.settings.height
  count.fold (fun i _ octets =>
    let p := s.pixel (i % width) (i / width)
    ((octets.push p.red).push p.green).push p.blue) (.emptyWithCapacity (count * 3))

variable [Timeline τ] {ω : Type} [Clock ω τ]

/-- Begin a stream; there has to be room for pixels. -/
def connect (s : SyntheticSource τ) (w : ω) :
    Except AcquisitionError Unit × SyntheticSource τ × ω :=
  if s.settings.width = 0 ∨ s.settings.height = 0 then
    (.error (.source s!"synthetic source {s.settings.url} has zero size"), s, w)
  else
    let (now, w) := Clock.now w
    (.ok (), { s with connectedAt := some now, pacer := s.pacer.reset }, w)

/-- The frame at a time, for a source that was connected at another one. -/
def nextFrame (s : SyntheticSource τ) (connectedAt now : τ) : Except AcquisitionError (Frame τ) :=
  let metadata : Metadata τ := {
    presentedFrames := s.frameCount + 1
    presentationTime := now
    mediaTime := Timeline.seconds (now - connectedAt)
    width := s.settings.width
    height := s.settings.height
    source := s.settings.url }
  match Frame.ofOctets? s.settings.width s.settings.height s.nextOctets now metadata with
  | some frame => .ok frame
  | none => .error (.source "synthetic frame size mismatch")

/-- Wait for the next frame and make it up, if there is room for its octets. -/
def next (s : SyntheticSource τ) (w : ω) : Delivery τ × SyntheticSource τ × ω :=
  match s.connectedAt with
  | none => (.ok (.error .notConnected), s, w)
  | some connectedAt =>
    let (now, pacer, w) := s.pacer.wait w
    let s' := { s with pacer, scene := s.nextScene }
    if octetLimit ≤ s.settings.width * s.settings.height * 3 then (.tooLarge, s', w)
    else (.ok (s.nextFrame connectedAt now), { s' with frameCount := s.frameCount + 1 }, w)

/-- End the stream. -/
def stop (s : SyntheticSource τ) : SyntheticSource τ := { s with connectedAt := none }

/-- What it has done so far. -/
def stats (s : SyntheticSource τ) : SourceStats := ⟨s.frameCount, s.settings.url⟩

instance : DescribedSource (SyntheticSource τ) where
  describe s := s.settings.url
  stats := stats

instance : FrameSource (SyntheticSource τ) ω τ where
  connect := connect
  next := next
  stop s w := (s.stop, w)
  isHealthy s w := (s.connectedAt.isSome, w)

end SyntheticSource

end Lookout
