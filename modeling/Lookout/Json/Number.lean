import Lookout.Json.Error
/-!
# Reading numbers

A number without fraction and exponent that fits 64 bits is kept exactly.  Any other number
becomes a binary64 number in two steps: the digits that fit 64 bits form a significand, the digits
after them only shift the decimal exponent, and the significand is then scaled by a power of ten
with one multiplication or division.  That is not always the nearest binary64 number.
-/

namespace Lookout.Json

/-- A number that was read. -/
inductive Number where
  /-- A whole number: below `2 ^ 64`, and if negative not below `-2 ^ 63`. -/
  | whole (value : Int)
  /-- Any other number. -/
  | real (value : Float)

/-- The digit's value. -/
def digitValue (c : Char) : Nat := c.toNat - '0'.toNat

/-- Append digits to a significand for as long as it fits 64 bits.  The result is the significand,
how many digits were appended, and the rest of the text. -/
def absorb (significand count : Nat) : List Char → Nat × Nat × List Char
  | [] => (significand, count, [])
  | c :: cs =>
    let next := significand * 10 + digitValue c
    if c.isDigit ∧ next < 0x10000000000000000 then absorb next (count + 1) cs else (significand, count, c :: cs)

/-- Pass over digits and count them. -/
def passDigits (count : Nat) : List Char → Nat × List Char
  | [] => (count, [])
  | c :: cs => if c.isDigit then passDigits (count + 1) cs else (count, c :: cs)

/-- The power of ten as a binary64 number. -/
def powerOfTen (k : Nat) : Float := Float.ofScientific 1 false k

/-- Divide by a power of ten; powers beyond the finite ones are divided out in several steps. -/
def scaleDown (f : Float) (k : Nat) : Float :=
  if k ≤ 308 then f / powerOfTen k
  else if f == 0.0 then f
  else scaleDown (f / powerOfTen 308) (k - 308)
termination_by k

/-- A significand times a power of ten. -/
def scaled (negative : Bool) (significand : Nat) (exponent : Int) : Except Error Float :=
  let f := Float.ofNat significand
  let signed (x : Float) : Float := if negative then -x else x
  if exponent < 0 then .ok (signed (scaleDown f (-exponent).toNat))
  else if 308 < exponent then
    if f == 0.0 then .ok (signed f) else .error .numberOutOfRange
  else
    let product := f * powerOfTen exponent.toNat
    if product.isInf then .error .numberOutOfRange else .ok (signed product)

/-- Read the digits of an exponent.  The exponent itself stays below `2 ^ 31`; the result is `none`
once it does not. -/
def exponentDigits (value : Nat) : List Char → Option Nat × List Char
  | [] => (some value, [])
  | c :: cs =>
    if c.isDigit then
      let next := value * 10 + digitValue c
      if next < 0x80000000 then exponentDigits next cs else (none, (passDigits 0 cs).2)
    else (some value, c :: cs)

/-- Read what follows the letter of an exponent. -/
def exponentPart (negative : Bool) (significand : Nat) (shift : Int) (cs : List Char) :
    Except Error (Float × List Char) :=
  let (down, cs) := match cs with
    | '+' :: cs => (false, cs)
    | '-' :: cs => (true, cs)
    | cs => (false, cs)
  match cs with
  | [] => .error .endInValue
  | c :: cs =>
    if c.isDigit then
      match exponentDigits (digitValue c) cs with
      | (some e, rest) => do
        let exponent := if down then shift - e else shift + e
        return (← scaled negative significand exponent, rest)
      | (none, rest) =>
        if significand ≠ 0 ∧ !down then .error .numberOutOfRange
        else .ok (if negative then -0.0 else 0.0, rest)
    else .error .invalidNumber

/-- Read an exponent, if one follows. -/
def withExponent (negative : Bool) (significand : Nat) (shift : Int) :
    List Char → Except Error (Float × List Char)
  | 'e' :: cs => exponentPart negative significand shift cs
  | 'E' :: cs => exponentPart negative significand shift cs
  | cs => do return (← scaled negative significand shift, cs)

/-- Read what follows a decimal point. -/
def fractionPart (negative : Bool) (significand : Nat) (shift : Int) (cs : List Char) :
    Except Error (Float × List Char) :=
  let (significand, count, rest) := absorb significand 0 cs
  match rest with
  | c :: _ =>
    if c.isDigit then
      withExponent negative significand (shift - count) (passDigits 0 rest).2
    else if count = 0 then .error .invalidNumber
    else withExponent negative significand (shift - count) rest
  | [] =>
    if count = 0 then .error .endInValue
    else withExponent negative significand (shift - count) []

/-- Read what follows the digits before the point, which may be nothing. -/
def afterWhole (negative : Bool) (significand : Nat) (shift : Nat) :
    List Char → Except Error (Float × List Char)
  | '.' :: cs => fractionPart negative significand shift cs
  | cs => withExponent negative significand shift cs

/-- A whole number after its sign: minus zero and numbers that do not fit 64 bits are reals. -/
def wholeNumber (negative : Bool) (significand : Nat) : Number :=
  if !negative then .whole significand
  else if significand = 0 ∨ 0x8000000000000000 < significand then .real (-(Float.ofNat significand))
  else .whole (-(significand : Int))

/-- A point or an exponent comes next. -/
def goesOn : List Char → Bool
  | '.' :: _ => true
  | 'e' :: _ => true
  | 'E' :: _ => true
  | _ => false

/-- Read a number after its sign. -/
def unsignedNumber (negative : Bool) : List Char → Except Error (Number × List Char)
  | [] => .error .endInValue
  | '0' :: cs =>
    if (cs.headD ' ').isDigit then .error .invalidNumber
    else if goesOn cs then do
      let (x, rest) ← afterWhole negative 0 0 cs
      return (.real x, rest)
    else .ok (wholeNumber negative 0, cs)
  | c :: cs =>
    if c.isDigit then
      let (significand, _, rest) := absorb (digitValue c) 0 cs
      if (rest.headD ' ').isDigit then do
        let (dropped, rest) := passDigits 0 rest
        let (x, rest) ← afterWhole negative significand dropped rest
        return (.real x, rest)
      else if goesOn rest then do
        let (x, rest) ← afterWhole negative significand 0 rest
        return (.real x, rest)
      else .ok (wholeNumber negative significand, rest)
    else .error .invalidNumber

/-- Read a number, which starts with a minus sign or a digit. -/
def readNumber : List Char → Except Error (Number × List Char)
  | '-' :: cs => unsignedNumber true cs
  | cs => unsignedNumber false cs

/-- A number that is not of the expected kind, as something found. -/
def Number.seen : Number → Seen
  | .whole n => .integer n
  | .real x => .real x

end Lookout.Json
