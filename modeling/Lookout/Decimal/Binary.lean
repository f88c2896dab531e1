/-!
# Binary floating-point numbers as exact quantities

A finite binary number is an integer times a power of two.  This module takes a number apart into
that exact form, so that every rule about digits and rounding elsewhere is integer arithmetic:
`Decimal.Digits` writes the fewest digits that read back or a fixed number of places, `Time.Span`
turns seconds into whole nanoseconds, and `Display.Canvas` places boxes on whole pixels.
-/

namespace Lookout.Decimal

/-- A quotient rounded to the nearest integer; a half goes to the even neighbour. -/
def roundHalfEven (num den : Nat) : Nat :=
  let q := num / den
  let r := num % den
  if 2 * r < den then q
  else if den < 2 * r then q + 1
  else if q % 2 = 0 then q else q + 1

/-- A quotient rounded to the nearest integer; a half goes up. -/
def roundHalfUp (num den : Nat) : Nat := (2 * num + den) / (2 * den)

/-- A signed quantity `mantissa * 2 ^ exponent`. -/
structure Binary where
  /-- The sign bit, kept for zero as well. -/
  negative : Bool
  /-- The integer factor. -/
  mantissa : Nat
  /-- The power of two it is multiplied by. -/
  exponent : Int
  deriving DecidableEq, Repr

/-- What the bits of a binary number stand for. -/
inductive Reading where
  /-- A finite number, zero included. -/
  | finite (value : Binary)
  /-- An infinity of the given sign. -/
  | infinite (negative : Bool)
  /-- Not a number. -/
  | notANumber
  deriving DecidableEq, Repr

/-- Take the bits of a number apart: a sign bit, a field of `exponents` values for the exponent and
one of `fractions` values for the fraction, from the top.  The leading bit of the mantissa of a
normal number stands above its fraction and is not stored; numbers that have none have the least
exponent, `least`. -/
def readBits (exponents fractions : Nat) (least : Int) (bits : Nat) : Reading :=
  let negative := exponents * fractions ≤ bits
  let field := bits / fractions % exponents
  let fraction := bits % fractions
  if field + 1 = exponents then
    if fraction = 0 then .infinite negative else .notANumber
  else if field = 0 then .finite ⟨negative, fraction, least⟩
  else .finite ⟨negative, fractions + fraction, least + field - 1⟩

/-- The leading bit of the mantissa of a normal binary64 number, above its 52 fraction bits. -/
def hiddenBit : Nat := 0x10000000000000

/-- Take a binary64 number apart: eleven exponent bits, 52 fraction bits. -/
def read (x : Float) : Reading := readBits 2048 hiddenBit (-1074) x.toBits.toNat

/-- Take a binary32 number apart: eight exponent bits, 23 fraction bits. -/
def readSingle (x : Float32) : Reading := readBits 256 0x800000 (-149) x.toBits.toNat

namespace Binary

/-- The magnitude as a quotient of naturals. -/
def numerator (b : Binary) : Nat :=
  if 0 ≤ b.exponent then b.mantissa * Nat.pow 2 b.exponent.toNat else b.mantissa

/-- The denominator that goes with `numerator`. -/
def denominator (b : Binary) : Nat :=
  if 0 ≤ b.exponent then 1 else Nat.pow 2 (-b.exponent).toNat

/-- The magnitude times `factor`, rounded to the nearest integer, a half to the even one. -/
def roundTimes (b : Binary) (factor : Nat) : Nat :=
  roundHalfEven (b.numerator * factor) b.denominator

/-- The nearest integer; a half goes away from zero. -/
def nearest (b : Binary) : Int :=
  let magnitude : Int := roundHalfUp b.numerator b.denominator
  if b.negative then -magnitude else magnitude

end Binary

/-- The nearest integer from `low` to `high`, for what was read of a number; zero for what is not a
number. -/
def Reading.nearestIn (low high : Int) : Reading → Int
  | .finite b => max low (min high b.nearest)
  | .infinite negative => if negative then low else high
  | .notANumber => 0

end Lookout.Decimal
