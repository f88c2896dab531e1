import Lookout.Net.Message
import Lookout.Text.Reading
/-!
# Requests and answers on a connection

A request is a few lines and what is sent; the server closes the connection after its answer.  The
answer starts with a line that holds the status, and with lines that describe the body.  Where the
body ends is told by its length, by the lengths of its pieces, or by the end of the connection.
-/

namespace Lookout.Net

/-! ## Requests -/

/-- The lines that describe what is sent. -/
def Request.contentLines (r : Request) : List String :=
  match r.contentType with
  | some type => [s!"Content-Type: {type}", s!"Content-Length: {r.body.size}"]
  | none => []

/-- The lines of a request. -/
def Request.lines (r : Request) : List String :=
  [r.line, s!"Host: {r.url.authority}", "Accept: */*", "Connection: close"] ++ r.contentLines

/-- A request as it is sent. -/
def Request.octets (r : Request) : ByteArray :=
  (String.join (r.lines.map (· ++ "\r\n")) ++ "\r\n").toUTF8 ++ r.body

/-! ## Answers -/

/-- The part of some octets up to the next line break, and what follows that. -/
def splitLine : List UInt8 → List UInt8 × Option (List UInt8)
  | [] => ([], none)
  | 13 :: 10 :: rest => ([], some rest)
  | b :: rest =>
    let (line, after) := splitLine rest
    (b :: line, after)

theorem splitLine_length {octets line rest : List UInt8} (h : splitLine octets = (line, some rest)) :
    rest.length < octets.length := by
  fun_induction splitLine octets generalizing line with
  | case1 => simp at h
  | case2 r =>
    simp only [Prod.mk.injEq, Option.some.injEq] at h
    rw [← h.2]
    simp only [List.length_cons]
    omega
  | case3 b r _ line' after hl ih =>
    simp only [Prod.mk.injEq] at h
    have := @ih line' (by rw [hl, h.2])
    simp; omega

/-- The text of a line; octets beyond ASCII stand for characters of their number. -/
def lineText (line : List UInt8) : String := String.ofList (line.map fun b => Char.ofNat b.toNat)

/-- The lines up to an empty one, and what follows that. -/
def splitHead (octets : List UInt8) : Option (List String × List UInt8) :=
  match _h : splitLine octets with
  | ([], some rest) => some ([], rest)
  | (line, some rest) => do
    let (lines, body) ← splitHead rest
    return (lineText line :: lines, body)
  | (_, none) => none
termination_by octets.length
decreasing_by exact splitLine_length _h

/-- The status in the first line of an answer. -/
def statusOf? (line : String) : Option Nat :=
  match line.splitOn " " with
  | version :: status :: _ =>
    if version.startsWith "HTTP/1." then Text.whole? 1000 status else none
  | _ => none

/-- What a line says about a property, whose name is given in lower case. -/
def property? (name line : String) : Option String :=
  match line.splitOn ":" with
  | key :: rest =>
    if key.toLower = name then some (":".intercalate rest).trimAscii.toString else none
  | [] => none

/-- What the lines of an answer say about a property. -/
def findProperty (name : String) (lines : List String) : Option String :=
  lines.findSome? (property? name)

/-- The length in front of a piece. -/
def pieceLength? (line : String) : Option Nat :=
  let digits := line.toList.takeWhile (· ≠ ';')
  let value (acc : Option Nat) (c : Char) : Option Nat := do
    let n ← acc
    if c.isDigit then return n * 16 + (c.toNat - '0'.toNat)
    else if 'a' ≤ c.toLower ∧ c.toLower ≤ 'f' then return n * 16 + (c.toLower.toNat - 'a'.toNat + 10)
    else none
  if digits.isEmpty then none else digits.foldl value (some 0)

/-- The octets of a body that comes in pieces, and how it ends. -/
def joinPieces (octets : List UInt8) : List UInt8 × Ending :=
  match _h : splitLine octets with
  | (line, some rest) =>
    match pieceLength? (lineText line) with
    | none => ([], .cut)
    | some 0 => ([], .complete)
    | some n =>
      if rest.length < n + 2 then (rest.take n, .cut)
      else
        let (body, ending) := joinPieces (rest.drop (n + 2))
        (rest.take n ++ body, ending)
  | (_, none) => ([], .cut)
termination_by octets.length
decreasing_by
  have := splitLine_length _h
  simp only [List.length_drop]
  omega

/-- The body of an answer with a status and lines, given all octets after those. -/
def bodyOf (status : Nat) (lines : List String) (octets : List UInt8) : Body :=
  if status = 204 ∨ status = 304 then {}
  else if (findProperty "transfer-encoding" lines).any (·.toLower = "chunked") then
    let (octets, ending) := joinPieces octets
    .ofOctets ⟨octets.toArray⟩ ending
  else match (findProperty "content-length" lines).bind (Text.whole? 0x10000000000000000) with
    | some n =>
      .ofOctets ⟨(octets.take n).toArray⟩ (if octets.length < n then .cut else .complete)
    | none => .ofOctets ⟨octets.toArray⟩ .complete

/-- The answer that was received over a connection that is closed now. -/
def Response.ofOctets (octets : ByteArray) : Except TransportFault Response :=
  match splitHead octets.data.toList with
  | some (first :: lines, body) =>
    match statusOf? first with
    | some status =>
      .ok {
        status
        contentType := findProperty "content-type" lines
        body := bodyOf status lines body }
    | none => .error (.other "Bad Status")
  | _ => .error .dropped

end Lookout.Net
