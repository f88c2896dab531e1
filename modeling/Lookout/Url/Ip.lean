import Lookout.Url.Error
import Lookout.Json.Token
/-!
# Hosts that are network addresses
-/

namespace Lookout.Url

/-- Cut a list at every element that satisfies `p`; there is one more part than cuts. -/
def splitAt (p : Char → Bool) : List Char → List (List Char)
  | [] => [[]]
  | c :: cs =>
    match splitAt p cs with
    | part :: parts => if p c then [] :: part :: parts else (c :: part) :: parts
    | [] => [[c]]

/-- The value of digits in a base, `none` if one of them is no digit of that base. -/
def valueIn? (base : Nat) (cs : List Char) : Option Nat :=
  cs.foldl (fun acc c => do
    let n ← acc
    let d ← Json.hexValue? c
    if d < base then some (n * base + d) else none) (some 0)

/-! ## IPv4 -/

/-- A part of an IPv4 address: decimal, octal after a zero, or hexadecimal after `0x`. -/
def ipv4Part? : List Char → Option Nat
  | [] => none
  | '0' :: 'x' :: digits => valueIn? 16 digits
  | '0' :: 'X' :: digits => valueIn? 16 digits
  | '0' :: d :: digits => valueIn? 8 (d :: digits)
  | digits => valueIn? 10 digits

/-- The parts of a host; an empty last part is dropped. -/
def hostParts (host : List Char) : List (List Char) :=
  let parts := splitAt (· == '.') host
  if 1 < parts.length ∧ parts.getLast? = some [] then parts.dropLast else parts

/-- The host ends in a number, so that it has to be an IPv4 address. -/
def endsInNumber (host : List Char) : Bool :=
  match (hostParts host).getLast? with
  | none => false
  | some part => (!part.isEmpty && part.all (·.isDigit)) || (ipv4Part? part).isSome

/-- An IPv4 address of one to four parts; the last one fills all octets that are left. -/
def ipv4 (host : List Char) : Except UrlError Nat :=
  let parts := hostParts host
  if 4 < parts.length then .error .invalidIpv4
  else
    match parts.mapM ipv4Part? with
    | none => .error .invalidIpv4
    | some numbers =>
      let leading := numbers.dropLast
      let last := numbers.getLastD 0
      if leading.any (255 < ·) ∨ Nat.pow 256 (4 - leading.length) ≤ last then .error .invalidIpv4
      else
        let high := (List.range leading.length).foldl
          (fun sum i => sum + leading.getD i 0 * Nat.pow 256 (3 - i)) 0
        .ok (high + last)

/-! ## IPv6 -/

/-- One to four hexadecimal digits. -/
def hextet? (cs : List Char) : Option Nat :=
  if cs.isEmpty ∨ 4 < cs.length then none else valueIn? 16 cs

/-- A decimal number below 256 without leading zeros. -/
def octet? (cs : List Char) : Option Nat :=
  if cs.isEmpty ∨ 3 < cs.length ∨ (1 < cs.length ∧ cs.head? = some '0') then none
  else (valueIn? 10 cs).filter (· < 256)

/-- The pieces of one side of an IPv6 address; at its end (`final`) two pieces may be written as an
IPv4 address. -/
def ipv6Pieces? (final : Bool) : List (List Char) → Option (List Nat)
  | [] => some []
  | [part] =>
    if final && part.contains '.' then
      match (splitAt (· == '.') part).mapM octet? with
      | some [a, b, c, d] => some [a * 256 + b, c * 256 + d]
      | _ => none
    else (hextet? part).map ([·])
  | part :: parts => do
    let piece ← hextet? part
    return piece :: (← ipv6Pieces? final parts)

/-- One side of the double colon. -/
def ipv6Side? (final : Bool) (cs : List Char) : Option (List Nat) :=
  if cs.isEmpty then some [] else ipv6Pieces? final (splitAt (· == ':') cs)

/-- The text before and after the first double colon. -/
def atDoubleColon : List Char → Option (List Char × List Char)
  | ':' :: ':' :: rest => some ([], rest)
  | c :: cs => (atDoubleColon cs).map fun (before, after) => (c :: before, after)
  | [] => none

/-- The eight pieces of an IPv6 address; a double colon stands for one or more pieces of zero. -/
def ipv6 (cs : List Char) : Except UrlError (List Nat) :=
  let pieces := match atDoubleColon cs with
    | none => (ipv6Side? true cs).filter (·.length = 8)
    | some (before, after) => do
      let left ← ipv6Side? false before
      let right ← ipv6Side? true after
      let given := left.length + right.length
      if given < 8 then some (left ++ List.replicate (8 - given) 0 ++ right) else none
  match pieces with
  | some ps => .ok ps
  | none => .error .invalidIpv6

end Lookout.Url
