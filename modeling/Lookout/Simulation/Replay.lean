import Lookout.Capture.Source
import Lookout.Detection.Service
import Lookout.Simulation.World
/-!
# Prepared sources and services

A prepared source delivers given frames and failures in their order, and then ends.  A prepared
service gives prepared answers in their order, and then finds nothing; it remembers what it was
sent.
-/

namespace Lookout.Simulation

/-- A source of prepared frames. -/
structure ReplaySource (τ : Type) where
  /-- The frames and failures that are still to come. -/
  outcomes : List (Except AcquisitionError (Frame τ))
  /-- Why it cannot be connected, if it cannot. -/
  connectError : Option AcquisitionError := none
  /-- It is connected. -/
  connected : Bool := false
  /-- How many frames it has delivered. -/
  delivered : Nat := 0

namespace ReplaySource

variable {τ : Type}

/-- The name of the source. -/
def name : String := "scripted://camera"

/-- Begin the stream. -/
def connect (s : ReplaySource τ) : Except AcquisitionError Unit × ReplaySource τ :=
  match s.connectError with
  | some e => (.error e, s)
  | none => (.ok (), { s with connected := true })

/-- The next frame or failure. -/
def next (s : ReplaySource τ) : Except AcquisitionError (Frame τ) × ReplaySource τ :=
  match s.outcomes with
  | [] => (.error .streamEnded, s)
  | .error e :: outcomes => (.error e, { s with outcomes })
  | .ok frame :: outcomes => (.ok frame, { s with outcomes, delivered := s.delivered + 1 })

instance : DescribedSource (ReplaySource τ) where
  describe _ := name
  stats s := ⟨s.delivered, name⟩

instance : FrameSource (ReplaySource τ) (World τ) τ where
  connect s w := let (r, s) := s.connect; (r, s, w)
  next s w := let (r, s) := s.next; (.ok r, s, w)
  stop s w := ({ s with connected := false }, { w with sourceStops := w.sourceStops + 1 })
  isHealthy s w := (s.connected, w)

end ReplaySource

/-- Something that a prepared service was sent. -/
structure Submission where
  /-- The media type. -/
  contentType : String
  /-- What was sent. -/
  payload : ByteArray

/-- A service with prepared answers. -/
structure ReplayService where
  /-- The answers that are still to come. -/
  outcomes : List (Except ClientError DetectionResult)
  /-- What it was sent, in order. -/
  submissions : Array Submission := #[]

namespace ReplayService

/-- Give the next answer. -/
def submit (payload : ByteArray) (contentType : String) (s : ReplayService) :
    Except ClientError DetectionResult × ReplayService :=
  let submissions := s.submissions.push ⟨contentType, payload⟩
  match s.outcomes with
  | [] => (.ok {}, { s with submissions })
  | outcome :: outcomes => (outcome, { outcomes, submissions })

instance : NamedService ReplayService where
  name _ := "scripted"

instance {ω : Type} : DetectionService ReplayService ω where
  submit payload contentType s w :=
    let (answer, s) := s.submit payload contentType
    (answer, s, w)

end ReplayService

end Lookout.Simulation
