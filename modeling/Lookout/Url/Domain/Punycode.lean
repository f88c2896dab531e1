/-!
# Labels in ASCII

A label with other characters than those of ASCII is written in ASCII: first its ASCII characters
and a hyphen, then for each other character, in ascending order, how far the place and the number
of the character are from those of the last one.  Each such distance is a number in base 36 whose
digits have weights that adapt to the distances so far.
-/

namespace Lookout.Url.Punycode

/-- How many digits there are. -/
def base : Nat := 36

/-- The first character that is not of ASCII. -/
def firstOther : Nat := 0x80

/-- The first threshold of digits is found from this number. -/
def firstBias : Nat := 72

/-- The numbers that occur are below this one. -/
def wordBound : Nat := 0x100000000

/-- The value of a digit. -/
def digitValue? (c : Char) : Option Nat :=
  if 'a' ≤ c ∧ c ≤ 'z' then some (c.toNat - 'a'.toNat)
  else if '0' ≤ c ∧ c ≤ '9' then some (c.toNat - '0'.toNat + 26)
  else none

/-- The digit of a value. -/
def digitChar (value : Nat) : Char :=
  if value < 26 then Char.ofNat ('a'.toNat + value) else Char.ofNat ('0'.toNat + (value - 26))

/-- A digit below its threshold is the last of its number. -/
def threshold (bias k : Nat) : Nat := if k ≤ bias then 1 else min 26 (k - bias)

theorem threshold_pos (bias k : Nat) : 0 < threshold bias k := by
  unfold threshold; split <;> omega

/-- Divide by 35 until the number is small, and count 36 for each time. -/
def shrink (delta k : Nat) : Nat :=
  if 455 < delta then shrink (delta / 35) (k + base) else k + 36 * delta / (delta + 38)
termination_by delta

/-- The bias after a distance, when so many characters are there. -/
def adapt (delta count : Nat) (isFirst : Bool) : Nat :=
  let delta := if isFirst then delta / 700 else delta / 2
  shrink (delta + delta / count) 0

/-! ## Reading -/

/-- What was read so far. -/
structure Progress where
  /-- The characters. -/
  output : List Char
  /-- The number of the last character. -/
  char : Nat := firstOther
  /-- The place after the last character. -/
  place : Nat := 0
  /-- The bias. -/
  bias : Nat := firstBias
  /-- No distance was read yet. -/
  isFirst : Bool := true

/-- Put in the character at a distance. -/
def Progress.advance (p : Progress) (distance : Nat) : Option Progress :=
  let count := p.output.length + 1
  let total := p.place + distance
  let char := p.char + total / count
  let place := total % count
  if total < wordBound ∧ char.isValidChar then
    some {
      output := p.output.take place ++ Char.ofNat char :: p.output.drop place
      char
      place := place + 1
      bias := adapt distance count p.isFirst
      isFirst := false }
  else none

/-- Read digits: `distance` is the value of those of the present number, `weight` that of the next,
and `k` stands for its place. -/
def readDigits (p : Progress) (distance weight k : Nat) : List Char → Option (List Char)
  | [] => if k = base then some p.output else none
  | c :: cs => do
    let digit ← digitValue? c
    let distance := distance + digit * weight
    let t := threshold p.bias k
    if wordBound ≤ p.place + distance then none
    else if digit < t then readDigits (← p.advance distance) 0 1 base cs
    else
      let weight := weight * (base - t)
      if wordBound ≤ weight then none else readDigits p distance weight (k + base) cs

/-- The ASCII characters of a written label and what follows them. -/
def splitAtLastHyphen (cs : List Char) : List Char × List Char :=
  match cs.reverse.span (· ≠ '-') with
  | (digits, '-' :: before) => if before.isEmpty then ([], cs) else (before.reverse, digits.reverse)
  | _ => ([], cs)

/-- The label that is written as `cs`. -/
def decode (cs : List Char) : Option (List Char) :=
  let (plain, digits) := splitAtLastHyphen cs
  readDigits { output := plain } 0 1 base digits

/-! ## Writing -/

/-- The digits of a distance. -/
def digitsOf (bias k distance : Nat) : List Char :=
  let t := threshold bias k
  if distance < t then [digitChar distance]
  else
    digitChar (t + (distance - t) % (base - t))
      :: digitsOf bias (k + base) ((distance - t) / (base - t))
termination_by distance
decreasing_by
  have := threshold_pos bias k
  have := Nat.div_le_self (distance - threshold bias k) (base - threshold bias k)
  omega

/-- What was written so far. -/
structure Draft where
  /-- The digits. -/
  digits : List Char := []
  /-- The distance from the last character. -/
  distance : Nat := 0
  /-- How many characters are written. -/
  count : Nat
  /-- The bias. -/
  bias : Nat := firstBias
  /-- No distance was written yet. -/
  isFirst : Bool := true

/-- Pass a character of the label while those with the number `char` are written. -/
def Draft.pass (char : Nat) (d : Draft) (c : Char) : Draft :=
  if c.toNat < char then { d with distance := d.distance + 1 }
  else if c.toNat = char then
    { digits := d.digits ++ digitsOf d.bias base d.distance
      distance := 0
      count := d.count + 1
      bias := adapt d.distance (d.count + 1) d.isFirst
      isFirst := false }
  else d

/-- Write the characters with the given ascending numbers; `next` is the least number that the
next of them can have. -/
def writeAll (label : List Char) (next : Nat) (d : Draft) : List Nat → List Char
  | [] => d.digits
  | char :: chars =>
    let d := { d with distance := d.distance + (char - next) * (d.count + 1) }
    let d := label.foldl (Draft.pass char) d
    writeAll label (char + 1) { d with distance := d.distance + 1 } chars

/-- The written form of a label. -/
def encode (label : List Char) : List Char :=
  let plain := label.filter (·.toNat < firstOther)
  let others := ((label.filter (firstOther ≤ ·.toNat)).map (·.toNat)).mergeSort.eraseDups
  let digits := writeAll label firstOther { count := plain.length } others
  if plain.isEmpty then digits else plain ++ '-' :: digits

end Lookout.Url.Punycode
