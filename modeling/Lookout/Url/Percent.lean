/-!
# Percent encoding

Characters that may not stand in a part of an address are written as a percent sign and two
hexadecimal digits for each octet of their UTF-8 form.
-/

namespace Lookout.Url

/-- A set of ASCII characters that a part of an address may not hold.  Control characters and
characters beyond ASCII are always encoded. -/
abbrev EncodeSet := List Char

/-- What no fragment holds. -/
def fragmentSet : EncodeSet := [' ', '"', '<', '>', '\x60']

/-- What no path holds. -/
def pathSet : EncodeSet := fragmentSet ++ ['#', '?', '\x7b', '\x7d']

/-- What no user name and no password holds. -/
def userinfoSet : EncodeSet := pathSet ++ ['/', ':', ';', '=', '@', '[', '\\', ']', '^', '|']

/-- What no query holds. -/
def querySet : EncodeSet := [' ', '"', '#', '<', '>']

/-- What no query of an address with a special scheme holds. -/
def specialQuerySet : EncodeSet := querySet ++ ['\'']

/-- One octet as a percent sign and two capital hexadecimal digits. -/
def encodeOctet (b : UInt8) : List Char :=
  ['%', (Nat.digitChar (b.toNat / 16)).toUpper, (Nat.digitChar (b.toNat % 16)).toUpper]

/-- One character, encoded if it has to be. -/
def encodeChar (set : EncodeSet) (c : Char) : List Char :=
  if c.toNat < 0x20 || 0x7E < c.toNat || set.contains c then
    (String.singleton c).toUTF8.toList.flatMap encodeOctet
  else [c]

/-- Characters, encoded where they have to be. -/
def percentEncode (set : EncodeSet) (cs : List Char) : List Char := cs.flatMap (encodeChar set)

/-- The value of a hexadecimal digit given as an octet. -/
def hexOctet? (b : UInt8) : Option UInt8 :=
  if 48 ≤ b && b ≤ 57 then some (b - 48)
  else if 97 ≤ b && b ≤ 102 then some (b - 87)
  else if 65 ≤ b && b ≤ 70 then some (b - 55)
  else none

/-- Octets with every percent sign that two hexadecimal digits follow decoded. -/
def percentDecode : List UInt8 → List UInt8
  | 37 :: a :: b :: rest =>
    match hexOctet? a, hexOctet? b with
    | some x, some y => (x * 16 + y) :: percentDecode rest
    | _, _ => 37 :: percentDecode (a :: b :: rest)
  | b :: rest => b :: percentDecode rest
  | [] => []

end Lookout.Url
