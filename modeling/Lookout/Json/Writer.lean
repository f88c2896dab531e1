import Lookout.Decimal.Digits
/-!
# Writing JSON

Numbers are written with the fewest digits that read back, strings with the escapes that JSON
requires and no others, and objects one member a line.
-/

namespace Lookout.Json

/-- How a binary64 number is laid out once its shortest digits are known. -/
structure NumberLayout where
  /-- The least decimal exponent of the leading digit that is written positionally. -/
  lowest : Int
  /-- The decimal exponent from which numbers are written with an exponent again. -/
  highest : Int

/-- From `0.00001` up to, but not including, `10000000000000000` numbers are written without an
exponent. -/
def numberLayout : NumberLayout := ⟨-5, 16⟩

/-- Positional notation of the digits of `d`, with at least one digit on either side of the
point. -/
def positional (d : Decimal.Digits) : String :=
  let digits := toString d.digits
  if 0 ≤ d.exponent then digits ++ "".pushn '0' d.exponent.toNat ++ ".0"
  else
    let places := (-d.exponent).toNat
    let padded := Decimal.padZeros (places + 1) digits
    let cut := padded.length - places
    String.ofList (padded.toList.take cut) ++ "." ++ String.ofList (padded.toList.drop cut)

/-- Scientific notation of the digits of `d`: one digit before the point, the point only if digits
follow, and a signed exponent. -/
def scientific (d : Decimal.Digits) : String :=
  let digits := (toString d.digits).toList
  let exponent := d.exponent + digits.length - 1
  let mantissa := match digits with
    | first :: second :: rest => String.ofList (first :: '.' :: second :: rest)
    | short => String.ofList short
  mantissa ++ "e" ++ (if exponent < 0 then "" else "+") ++ toString exponent

/-- A finite number. -/
def finiteNumber (b : Decimal.Binary) : String :=
  let d := b.shortest
  let leading := d.exponent + Decimal.digitCount d.digits - 1
  let body :=
    if numberLayout.lowest ≤ leading ∧ leading < numberLayout.highest then positional d
    else scientific d
  (if b.negative then "-" else "") ++ body

/-- A binary64 number; JSON has no word for infinities and for not-a-number, which become `null`. -/
def number (x : Float) : String :=
  match Decimal.read x with
  | .finite b => finiteNumber b
  | _ => "null"

/-- A character inside a string. -/
def escapeChar (c : Char) : List Char :=
  match c with
  | '"' => ['\\', '"']
  | '\\' => ['\\', '\\']
  | '\x08' => ['\\', 'b']
  | '\x0c' => ['\\', 'f']
  | '\n' => ['\\', 'n']
  | '\r' => ['\\', 'r']
  | '\t' => ['\\', 't']
  | c =>
    if c.toNat < 0x20 then
      ['\\', 'u', '0', '0', Nat.digitChar (c.toNat / 16), Nat.digitChar (c.toNat % 16)]
    else [c]

/-- A string in quotes. -/
def string (s : String) : String :=
  String.ofList (['"'] ++ s.toList.flatMap escapeChar ++ ['"'])

/-- An object whose members' values are already written, one member a line, indented by two
spaces. -/
def object (members : List (String × String)) : String :=
  let lines := members.map fun (key, value) => "  " ++ string key ++ ": " ++ value
  "\x7b\n" ++ ",\n".intercalate lines ++ "\n\x7d"

end Lookout.Json
