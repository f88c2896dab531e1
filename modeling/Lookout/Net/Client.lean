import Lookout.Net.Message
/-!
# Asking a server

A client reads the address, sends the request and sorts the outcome: no answer at all, an answer
that the request failed, or any other answer.  Answers that point elsewhere are not followed.
-/

namespace Lookout.Net

/-- A world in which servers can be asked. -/
class Network (ω : Type) where
  /-- Send a request and get the answer. -/
  exchange : Request → ω → Except TransportFault Response × ω

/-- Why a request had no usable answer. -/
inductive HttpFailure where
  /-- There was no answer from an address. -/
  | transport (address : String) (cause : TransportFault)
  /-- The answer from an address was that the request failed. -/
  | status (address : String) (code : Nat)
  deriving DecidableEq, Repr

/-- The wording of a failure. -/
def HttpFailure.message : HttpFailure → String
  | .transport address cause => s!"{address}: {cause.message}"
  | .status address code => s!"{address}: status code {code}"

variable {ω : Type} [Network ω]

/-- The address of a server that can be asked. -/
def webAddress (address : String) : Except TransportFault Url :=
  match Url.parse address with
  | .error cause => .error (.badAddress cause)
  | .ok url =>
    if ["http", "https"].contains url.scheme then .ok url else .error (.unknownScheme url.scheme)

/-- Send the request that `make` makes for an address. -/
def send (address : String) (make : Url → Request) (w : ω) : Except HttpFailure Response × ω :=
  match webAddress address with
  | .error cause => (.error (.transport address cause), w)
  | .ok url =>
    match Network.exchange (make url) w with
    | (.error cause, w) => (.error (.transport url.render cause), w)
    | (.ok response, w) =>
      if 400 ≤ response.status then (.error (.status url.render response.status), w)
      else (.ok response, w)

/-- Get what an address names. -/
def get (address : String) (timeout : Option Span) (w : ω) : Except HttpFailure Response × ω :=
  send address (fun url => { method := .get, url, timeout }) w

/-- Send something to an address. -/
def post (address contentType : String) (body : ByteArray) (timeout : Option Span) (w : ω) :
    Except HttpFailure Response × ω :=
  send address (fun url => { method := .post, url, contentType := some contentType, body, timeout }) w

end Lookout.Net
