import Lookout.Capture.Error
import Lookout.Capture.Frame
/-!
# Sources of frames

A source is connected, asked for one frame after the other, and stopped.  It keeps to its frame
rate by itself.  Everything it does outside itself happens in a world `ω`, which it is given and
gives back.

A source that has no frame says why (`AcquisitionError`); that is an answer, and what asked for the
frame goes on.  A source that cannot hold the picture of its frame stops the program.
-/

namespace Lookout

/-- What a source is to deliver. -/
structure SourceSettings where
  /-- Where the frames come from. -/
  url : String := "stub://camera"
  /-- The most frames in a second. -/
  rate : Nat := 30
  /-- The width that was asked for. -/
  width : Nat := 1920
  /-- The height that was asked for. -/
  height : Nat := 1080
  deriving DecidableEq, Repr

/-- What a source has done so far. -/
structure SourceStats where
  /-- How many frames it has delivered. -/
  framesCaptured : Nat
  /-- Its name. -/
  source : String
  deriving DecidableEq, Repr

/-- Sources that can be asked about themselves. -/
class DescribedSource (σ : Type) where
  /-- The name of the source. -/
  describe : σ → String
  /-- What it has done so far. -/
  stats : σ → SourceStats

/-- What waiting for a frame comes to. -/
inductive Delivery (τ : Type) where
  /-- The picture of the frame is too large to be held, and the program stops. -/
  | tooLarge
  /-- There is a frame, or the reason why there is none. -/
  | ok (outcome : Except AcquisitionError (Frame τ))

/-- Sources in a world `ω` whose times are points of `τ`. -/
class FrameSource (σ : Type) (ω : Type) (τ : outParam Type) where
  /-- Begin a stream. -/
  connect : σ → ω → Except AcquisitionError Unit × σ × ω
  /-- Wait for the next frame. -/
  next : σ → ω → Delivery τ × σ × ω
  /-- End the stream; stopping twice is the same as stopping once. -/
  stop : σ → ω → σ × ω
  /-- The source still delivers. -/
  isHealthy : σ → ω → Bool × ω

instance {α β : Type} [DescribedSource α] [DescribedSource β] : DescribedSource (α ⊕ β) where
  describe
    | .inl a => DescribedSource.describe a
    | .inr b => DescribedSource.describe b
  stats
    | .inl a => DescribedSource.stats a
    | .inr b => DescribedSource.stats b

/-- A source of one of two kinds. -/
instance {α β ω τ : Type} [FrameSource α ω τ] [FrameSource β ω τ] : FrameSource (α ⊕ β) ω τ where
  connect s w :=
    match s with
    | .inl a => let (r, a, w) := FrameSource.connect a w; (r, .inl a, w)
    | .inr b => let (r, b, w) := FrameSource.connect b w; (r, .inr b, w)
  next s w :=
    match s with
    | .inl a => let (r, a, w) := FrameSource.next a w; (r, .inl a, w)
    | .inr b => let (r, b, w) := FrameSource.next b w; (r, .inr b, w)
  stop s w :=
    match s with
    | .inl a => let (a, w) := FrameSource.stop a w; (.inl a, w)
    | .inr b => let (b, w) := FrameSource.stop b w; (.inr b, w)
  isHealthy s w :=
    match s with
    | .inl a => FrameSource.isHealthy a w
    | .inr b => FrameSource.isHealthy b w

end Lookout
