import Lookout.Time.Span
import Lookout.Url.Render
/-!
# Requests and answers

A request goes to one server over a connection of its own.  The body of the answer arrives in
pieces, and it may break off before its end.
-/

namespace Lookout.Net

/-- What is done with what an address names. -/
inductive Method where
  /-- Get it. -/
  | get
  /-- Send something to it. -/
  | post
  deriving DecidableEq, Repr

/-- The method's name. -/
def Method.name : Method → String
  | .get => "GET"
  | .post => "POST"

/-- A request. -/
structure Request where
  /-- What is done. -/
  method : Method
  /-- Where. -/
  url : Url
  /-- The media type of what is sent, if anything is. -/
  contentType : Option String := none
  /-- What is sent. -/
  body : ByteArray := .empty
  /-- How long the whole exchange may take, if that is limited. -/
  timeout : Option Span := none

/-- The first line of a request. -/
def Request.line (r : Request) : String := s!"{r.method.name} {r.url.target} HTTP/1.1"

/-- How a body ends. -/
inductive Ending where
  /-- With all of its octets. -/
  | complete
  /-- Before that. -/
  | cut
  deriving DecidableEq, Repr

/-- The wording of a body that breaks off. -/
def cutMessage : String := "response body closed before all bytes were read"

/-- The body of an answer. -/
structure Body where
  /-- The pieces in which it arrives; none of them is empty. -/
  chunks : List ByteArray := []
  /-- How it ends. -/
  ending : Ending := .complete

namespace Body

/-- Octets in pieces of the given size. -/
def cutInto (size : Nat) (octets : ByteArray) : List ByteArray :=
  (List.range ((octets.size + size - 1) / size)).map fun i =>
    octets.extract (i * size) ((i + 1) * size)

/-- The body with the given octets, which arrive as fast as they are read. -/
def ofOctets (octets : ByteArray) (ending : Ending) : Body := ⟨cutInto 8192 octets, ending⟩

/-- All octets. -/
def octets (b : Body) : ByteArray := b.chunks.foldl (· ++ ·) .empty

/-- The first `limit` octets, or all if there are fewer; `none` if the body breaks off before
that. -/
def take (limit : Nat) (b : Body) : Option ByteArray :=
  let octets := b.octets
  if limit ≤ octets.size then some (octets.extract 0 limit)
  else match b.ending with
    | .complete => some octets
    | .cut => none

end Body

/-- An answer. -/
structure Response where
  /-- The status. -/
  status : Nat
  /-- The media type of the body, if it is given. -/
  contentType : Option String := none
  /-- The body. -/
  body : Body := {}

/-- The request was carried out. -/
def Response.isSuccess (r : Response) : Bool := 200 ≤ r.status && r.status < 300

/-- Why there was no answer. -/
inductive TransportFault where
  /-- The text is no address. -/
  | badAddress (cause : UrlError)
  /-- Nothing is known about the scheme. -/
  | unknownScheme (name : String)
  /-- The server takes no connection. -/
  | refused
  /-- The server closed the connection before it answered. -/
  | dropped
  /-- Something else. -/
  | other (reason : String)
  deriving DecidableEq, Repr

/-- The wording of a fault. -/
def TransportFault.message : TransportFault → String
  | .badAddress cause => s!"Bad URL: failed to parse URL: {cause.message}"
  | .unknownScheme name => s!"Unknown Scheme: unknown scheme '{name}'"
  | .refused => "Connection Failed: Connect error: Connection refused (os error 111)"
  | .dropped => "Network Error: Unexpected EOF"
  | .other reason => reason

end Lookout.Net
