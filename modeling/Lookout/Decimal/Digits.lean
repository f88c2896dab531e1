import Lookout.Decimal.Binary
/-!
# Decimal digits of binary numbers

A number is written in one of two ways: with the fewest digits that read back as it (`shortest`), or
with a fixed number of decimal places (`fixed`).  For the latter its exact value is rounded to the
last place shown, and a half goes to the even digit.

A binary number stands for every real that rounds to it.  Its shortest decimal form is the decimal
with the fewest digits among those reals, and among several the one nearest to the number itself;
an exact tie goes to the even last digit.

For a given number of digits the decimals form a grid, and if any grid point rounds to the number
then one of the number's two neighbours on the grid does.  So it is enough to test two candidates
for one digit, then for two digits, and so on; seventeen digits always suffice.
-/

namespace Lookout.Decimal

/-- A decimal `digits * 10 ^ exponent`. -/
structure Digits where
  /-- The significant digits, read as one number. -/
  digits : Nat
  /-- The power of ten they are multiplied by. -/
  exponent : Int
  deriving DecidableEq, Repr

/-- How many decimal digits `n` has; one for zero. -/
def digitCount (n : Nat) : Nat := (Nat.toDigits 10 n).length

namespace Binary

/-- A non-negative real given as a quotient is among those that round to `b`.  The reals that round
to `b` reach half-way to its two neighbours; the half-way points themselves belong to it exactly
when its mantissa is even.  Below a power of two the lower neighbour is twice as near. -/
def holds (b : Binary) (num den : Nat) : Bool :=
  let narrow := b.mantissa = hiddenBit ∧ -1074 < b.exponent
  let quarters := 4 * b.mantissa
  let low := if narrow then quarters - 1 else quarters - 2
  let high := quarters + 2
  -- compare num / den with low * 2 ^ (exponent - 2) and high * 2 ^ (exponent - 2)
  let e := b.exponent - 2
  let up := if 0 ≤ e then Nat.pow 2 e.toNat else 1
  let down := if 0 ≤ e then 1 else Nat.pow 2 (-e).toNat
  let point := num * down
  if b.mantissa % 2 = 0 then low * up * den ≤ point ∧ point ≤ high * up * den
  else low * up * den < point ∧ point < high * up * den

/-- The decimal exponent of the leading digit of a positive number. -/
def leading (b : Binary) : Int :=
  let num := b.numerator
  let den := b.denominator
  if den ≤ num then digitCount (num / den) - 1
  else
    let k := digitCount (den / num)
    if den ≤ num * Nat.pow 10 (k - 1) then -((k : Int) - 1) else -(k : Int)

/-- The candidates with `count` digits: the two neighbours of the number on that grid, given as a
lower digit string, the grid's exponent, and the exact remainder `(rest, whole)` of the way from
the lower to the upper neighbour. -/
def neighbours (b : Binary) (count : Nat) : Nat × Int × Nat × Nat :=
  let p := b.leading - count + 1
  let num := if p < 0 then b.numerator * Nat.pow 10 (-p).toNat else b.numerator
  let den := if p < 0 then b.denominator else b.denominator * Nat.pow 10 p.toNat
  (num / den, p, num % den, den)

/-- The better candidate with `count` digits that reads back as the number, if there is one. -/
def withDigits (b : Binary) (count : Nat) : Option Digits :=
  let (lower, p, rest, whole) := b.neighbours count
  let fits (d : Nat) : Bool :=
    if p < 0 then b.holds d (Nat.pow 10 (-p).toNat) else b.holds (d * Nat.pow 10 p.toNat) 1
  let lowerIsNearer := 2 * rest < whole ∨ (2 * rest = whole ∧ lower % 2 = 0)
  match fits lower, fits (lower + 1) with
  | true, true => some ⟨if lowerIsNearer then lower else lower + 1, p⟩
  | true, false => some ⟨lower, p⟩
  | false, true => some ⟨lower + 1, p⟩
  | false, false => none

/-- Move trailing zeros of the digits into the exponent; `fuel` bounds how many. -/
def stripZeros : Nat → Digits → Digits
  | 0, d => d
  | fuel + 1, d =>
    if d.digits ≠ 0 ∧ d.digits % 10 = 0 then stripZeros fuel ⟨d.digits / 10, d.exponent + 1⟩ else d

/-- The shortest decimal that reads back as the magnitude of `b`, without trailing zeros. -/
def shortest (b : Binary) : Digits :=
  if b.mantissa = 0 then ⟨0, 0⟩
  else
    match (List.range 17).findSome? fun k => b.withDigits (k + 1) with
    | some d => stripZeros 17 d
    | none => ⟨b.numerator, 0⟩

end Binary

/-! ## A fixed number of places -/

/-- `digits`, padded on the left with zeros to at least `width` characters. -/
def padZeros (width : Nat) (digits : String) : String :=
  "".pushn '0' (width - digits.length) ++ digits

/-- Write `x` with exactly `places` decimal places (`places` at least one). -/
def fixed (places : Nat) (x : Float) : String :=
  match read x with
  | .notANumber => "NaN"
  | .infinite negative => if negative then "-inf" else "inf"
  | .finite b =>
    let unit := Nat.pow 10 places
    let scaled := b.roundTimes unit
    let whole := toString (scaled / unit)
    let rest := padZeros places (toString (scaled % unit))
    (if b.negative then "-" else "") ++ whole ++ "." ++ rest

end Lookout.Decimal
