/-!
# Numbers in octets, the highest first

Readers give `none` where the octets end before the number does; writers give exactly as many
octets as the name says.
-/

namespace Lookout.Octets

/-- The octet at a position, zero beyond the end. -/
def octetAt (data : ByteArray) (pos : Nat) : UInt8 :=
  if h : pos < data.size then data[pos] else 0

/-- The number of `count` octets at a position. -/
def natAt? (data : ByteArray) (pos : Nat) : Nat → Option Nat
  | 0 => some 0
  | count + 1 => do
    let high ← natAt? data pos count
    let low ← data[pos + count]?
    return high * 256 + low.toNat

/-- The number of two octets at a position. -/
def nat16? (data : ByteArray) (pos : Nat) : Option Nat := natAt? data pos 2

/-- The number of four octets at a position. -/
def nat32? (data : ByteArray) (pos : Nat) : Option Nat := natAt? data pos 4

/-- A number in two octets. -/
def write16 (n : Nat) : List UInt8 := [(n / 256).toUInt8, n.toUInt8]

/-- A number in four octets. -/
def write32 (n : Nat) : List UInt8 :=
  [(n / 16777216).toUInt8, (n / 65536).toUInt8, (n / 256).toUInt8, n.toUInt8]

/-- The octets from `start` up to, but not including, `stop`, if they are all there. -/
def slice? (data : ByteArray) (start stop : Nat) : Option ByteArray :=
  if start ≤ stop ∧ stop ≤ data.size then some (data.extract start stop) else none

end Lookout.Octets
