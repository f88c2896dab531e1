/-!
# Blanks and whole numbers in a text

A character is blank if Unicode counts it as white space, which is more than the ASCII blanks.
Digits are those of ASCII alone.
-/

namespace Lookout.Text

/-! ## Blanks -/

/-- Unicode white space. -/
def isBlank (c : Char) : Bool :=
  let n := c.toNat
  (0x09 ≤ n && n ≤ 0x0D) || n == 0x20 || n == 0x85 || n == 0xA0 || n == 0x1680
    || (0x2000 ≤ n && n ≤ 0x200A) || n == 0x2028 || n == 0x2029 || n == 0x202F || n == 0x205F
    || n == 0x3000

/-- A list without the elements at either end that satisfy `p`. -/
def stripEnds {α : Type} (p : α → Bool) (cs : List α) : List α :=
  ((cs.dropWhile p).reverse.dropWhile p).reverse

/-- A text without the blanks at either end. -/
def trim (s : String) : String := String.ofList (stripEnds isBlank s.toList)

/-! ## Whole numbers -/

/-- The value of a string of decimal digits, `none` if some character is not a digit. -/
def digitsValue? (cs : List Char) : Option Nat :=
  cs.foldl (fun acc c => acc.bind fun n => if c.isDigit then some (10 * n + (c.toNat - 48)) else none)
    (some 0)

/-- Read a whole number below `bound`: ASCII digits, at least one, after an optional plus sign. -/
def whole? (bound : Nat) (s : String) : Option Nat :=
  let digits := match s.toList with
    | '+' :: cs => cs
    | cs => cs
  if digits.isEmpty then none
  else (digitsValue? digits).filter (· < bound)

/-- Read a whole number below `bound` that may have a sign; only zero may have a minus sign. -/
def signedWhole? (bound : Nat) (s : String) : Option Nat :=
  match s.toList with
  | '-' :: c :: cs => (digitsValue? (c :: cs)).filter (· = 0)
  | _ => whole? bound s

end Lookout.Text
