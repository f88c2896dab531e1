import Lookout.Config.Basic
import Lookout.Detection.Result
import Lookout.Net.Client
/-!
# Detection services

A service is sent one picture at a time and answers before the next one is sent.  Besides the
service on the network there is one that finds nothing, which stands in where an address with the
scheme `stub` is configured.
-/

namespace Lookout

/-- Why a request to a service or to a channel had no usable answer. -/
inductive ClientError where
  /-- There was no complete answer. -/
  | transport (reason : String)
  /-- The answer was that the request failed. -/
  | status (code : Nat)
  /-- The answer was not of the form that was asked for. -/
  | malformedBody (reason : String)
  deriving DecidableEq, Repr

namespace ClientError

/-- The wording of an error. -/
def message : ClientError → String
  | .transport reason => s!"transport failure: {reason}"
  | .status code => s!"unexpected http status {code}"
  | .malformedBody reason => s!"malformed response body: {reason}"

/-- The error that a failed exchange amounts to. -/
def ofHttp : Net.HttpFailure → ClientError
  | .status _ code => .status code
  | failure => .transport failure.message

end ClientError

/-- Services that have a name. -/
class NamedService (δ : Type) where
  /-- The name for messages. -/
  name : δ → String

/-- Services in a world `ω`. -/
class DetectionService (δ : Type) (ω : Type) where
  /-- Send a picture with its media type and get the answer. -/
  submit : ByteArray → String → δ → ω → Except ClientError DetectionResult × δ × ω

/-- The most octets of an answer that are read. -/
def answerLimit : Nat := 4 * 1024 * 1024

/-- Read the body of an answer. -/
def DetectionResult.ofBody (body : Net.Body) : Except ClientError DetectionResult :=
  match body.take answerLimit with
  | none => .error (.transport s!"read response body: {Net.cutMessage}")
  | some octets =>
    match String.fromUTF8? octets with
    | none => .error (.transport s!"read response body: {FileFault.notText.message}")
    | some text => (DetectionResult.read text).mapError fun e => .malformedBody e.message

/-- A service on the network or its stand-in. -/
inductive Detector where
  /-- Finds nothing; it counts the requests. -/
  | stub (requests : Nat)
  /-- The service on the network. -/
  | remote (settings : DetectionSettings)
  deriving Repr

namespace Detector

/-- The service that an address asks for. -/
def ofSettings (settings : DetectionSettings) : Detector :=
  if settings.url.startsWith "stub://" then .stub 0 else .remote settings

/-- The name for messages. -/
def name : Detector → String
  | .stub _ => "stub"
  | .remote settings => settings.url

/-- Send a picture to the service on the network. -/
def post {ω : Type} [Net.Network ω] (settings : DetectionSettings) (payload : ByteArray)
    (contentType : String) (w : ω) : Except ClientError DetectionResult × ω :=
  match Net.post settings.url contentType payload (some settings.timeout) w with
  | (.error failure, w) => (.error (.ofHttp failure), w)
  | (.ok response, w) =>
    if response.isSuccess then (DetectionResult.ofBody response.body, w)
    else (.error (.status response.status), w)

/-- Send a picture and get the answer. -/
def submit {ω : Type} [Net.Network ω] (payload : ByteArray) (contentType : String) (d : Detector)
    (w : ω) : Except ClientError DetectionResult × Detector × ω :=
  match d with
  | .stub requests => (.ok {}, .stub (requests + 1), w)
  | .remote settings =>
    let (answer, w) := post settings payload contentType w
    (answer, .remote settings, w)

instance : NamedService Detector where
  name := name

instance {ω : Type} [Net.Network ω] : DetectionService Detector ω where
  submit := submit

end Detector

end Lookout
