import Lookout.Url.Basic
/-!
# Writing an address

An address that was read is written in one form only: the parts in their order, with the marks that
set them off, and hosts in the notation of their kind.
-/

namespace Lookout

namespace Host

/-- The longest run of zeros in a list, by its position and length, the first of equal ones; `pos`
is the position of the list's head, `run` the zeros right before it. -/
def longestZeros (pos run : Nat) (best : Nat × Nat) : List Nat → Nat × Nat
  | [] => best
  | p :: ps =>
    if p = 0 then
      let run := run + 1
      longestZeros (pos + 1) run (if best.2 < run then (pos + 1 - run, run) else best) ps
    else longestZeros (pos + 1) 0 best ps

/-- Pieces in hexadecimal with colons between them. -/
def pieces (ps : List Nat) : String :=
  ":".intercalate (ps.map fun p => String.ofList (Nat.toDigits 16 p))

/-- An address of eight pieces; the longest run of at least two zeros is left out. -/
def renderIpv6 (ps : List Nat) : String :=
  let (start, length) := longestZeros 0 0 (0, 0) ps
  if length < 2 then pieces ps
  else pieces (ps.take start) ++ "::" ++ pieces (ps.drop (start + length))

/-- The four octets of an address of 32 bits. -/
def renderIpv4 (n : Nat) : String :=
  ".".intercalate ([n / 16777216, n / 65536, n / 256, n].map fun octet => toString (octet % 256))

/-- A host in the notation of its kind. -/
def render : Host → String
  | .domain name => name
  | .ipv4 value => renderIpv4 value
  | .ipv6 ps => "[" ++ renderIpv6 ps ++ "]"

end Host

namespace Url

/-- A part after its mark, or nothing. -/
def marked (mark : String) : Option String → String
  | some part => mark ++ part
  | none => ""

/-- Host and port. -/
def authority (u : Url) : String :=
  match u.host with
  | some host => host.render ++ marked ":" (u.port.map toString)
  | none => ""

/-- The whole address. -/
def render (u : Url) : String :=
  let userinfo := if u.userinfo.isEmpty then "" else u.userinfo ++ "@"
  let front := match u.host with
    | some _ => "//" ++ userinfo ++ u.authority
    | none => if u.scheme = "file" then "//" else ""
  u.scheme ++ ":" ++ front ++ u.path ++ marked "?" u.query ++ marked "#" u.fragment

end Url

end Lookout
