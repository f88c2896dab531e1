import Lookout.Capture.Catalog
import Lookout.Capture.Source
/-!
# Sessions

A session owns a connected source.  It stops the source once, after which it delivers nothing.
-/

namespace Lookout

/-- A stream that is being captured. -/
structure Session (σ : Type) where
  /-- The device it captures from. -/
  deviceId : String
  /-- The request it answers. -/
  constraints : Constraints
  /-- Where its frames come from. -/
  source : σ
  /-- The source was stopped. -/
  stopped : Bool := false

namespace Session

variable {σ ω τ : Type}

/-- What its source has done so far. -/
def stats [DescribedSource σ] (s : Session σ) : SourceStats := DescribedSource.stats s.source

variable [FrameSource σ ω τ]

/-- Connect a source and start a session over it. -/
def start (deviceId : String) (constraints : Constraints) (source : σ) (w : ω) :
    Except AcquisitionError (Session σ) × ω :=
  match FrameSource.connect source w with
  | (.error e, _, w) => (.error e, w)
  | (.ok (), source, w) => (.ok { deviceId, constraints, source }, w)

/-- The settings of a source for a device. -/
def settingsOf (device : ResolvedDevice) (rate : Nat) : SourceSettings where
  url := device.device.url
  rate := rate
  width := device.width
  height := device.height

/-- Start a session over the first device that satisfies a request; `sourceOf` gives the source for
some settings. -/
def openDevice (catalog : Catalog) (sourceOf : SourceSettings → Except AcquisitionError σ)
    (rate : Nat) (constraints : Constraints) (w : ω) :
    Except Fault (Except AcquisitionError (Session σ) × ω) := do
  match ← catalog.resolve constraints with
  | .error e => return (.error e, w)
  | .ok device =>
    match sourceOf (settingsOf device rate) with
    | .error e => return (.error e, w)
    | .ok source => return start device.device.id constraints source w

/-- Wait for the next frame. -/
def next (s : Session σ) (w : ω) : Delivery τ × Session σ × ω :=
  if s.stopped then (.ok (.error .streamEnded), s, w)
  else
    let (frame, source, w) := FrameSource.next s.source w
    (frame, { s with source }, w)

/-- Stop the source, unless it was stopped before. -/
def stop (s : Session σ) (w : ω) : Session σ × ω :=
  if s.stopped then (s, w)
  else
    let (source, w) := FrameSource.stop s.source w
    ({ s with source, stopped := true }, w)

/-- The session still delivers. -/
def isHealthy (s : Session σ) (w : ω) : Bool × ω :=
  if s.stopped then (false, w) else FrameSource.isHealthy s.source w

end Session

end Lookout
