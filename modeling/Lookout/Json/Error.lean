import Lookout.Json.Writer
import Lookout.Text.Quoted
/-!
# What can be wrong with a JSON text

A text is refused for the first thing in it that is wrong, be it that it is not JSON or that it is
not the JSON that was asked for.  The causes are the constructors of `Error`; their wording is in
`Error.message` alone.
-/

namespace Lookout.Json

/-- What was found where something else was expected. -/
inductive Seen where
  /-- The word `null`. -/
  | null
  /-- A truth value. -/
  | boolean (value : Bool)
  /-- A number without fraction and exponent that fits 64 bits. -/
  | integer (value : Int)
  /-- Any other number. -/
  | real (value : Float)
  /-- A string. -/
  | text (value : String)
  /-- The start of a list. -/
  | sequence
  /-- The start of an object. -/
  | map

/-- The description of what was found. -/
def Seen.describe : Seen → String
  | .null => "null"
  | .boolean b => s!"boolean `{b}`"
  | .integer n => s!"integer `{n}`"
  | .real x => s!"floating point `{number x}`"
  | .text s => s!"string {Text.quote s}"
  | .sequence => "sequence"
  | .map => "map"

/-- Why a text was refused. -/
inductive Error where
  /-- The text ended where a value was expected or inside a number or word. -/
  | endInValue
  /-- The text ended inside a list. -/
  | endInList
  /-- The text ended inside an object. -/
  | endInObject
  /-- The text ended inside a string. -/
  | endInString
  /-- No value can start here. -/
  | expectedValue
  /-- A word other than `null`, `true` and `false`. -/
  | expectedWord
  /-- No colon after a key. -/
  | expectedColon
  /-- Neither a comma nor the end of the list after an element. -/
  | expectedCommaOrBracket
  /-- Neither a comma nor the end of the object after a member. -/
  | expectedCommaOrBrace
  /-- A key that is not a string. -/
  | keyNotString
  /-- A comma before the end of a list or object. -/
  | trailingComma
  /-- Something after the end of what was expected. -/
  | trailingCharacters
  /-- A malformed number. -/
  | invalidNumber
  /-- A number beyond the largest finite one. -/
  | numberOutOfRange
  /-- A backslash before a character that cannot be escaped, or malformed hexadecimal digits. -/
  | invalidEscape
  /-- A leading surrogate that is not followed by another escape. -/
  | surrogateUnfinished
  /-- A surrogate without its partner. -/
  | surrogateAlone
  /-- A bare control character in a string. -/
  | controlCharacter
  /-- A value of the wrong type. -/
  | invalidType (seen : Seen) (expected : String)
  /-- A number of the right type that is out of its range. -/
  | invalidValue (value : Int) (expected : String)
  /-- A record in list form with too few elements. -/
  | invalidLength (length : Nat) (record : String) (elements : Nat)
  /-- A member that has to be there is not. -/
  | missingField (name : String)
  /-- A member is there twice. -/
  | duplicateField (name : String)
  /-- A name that is not among the known ones. -/
  | unknownVariant (name : String) (known : List String)

/-- A list of alternatives, each in back quotes. -/
def alternatives : List String → String
  | [] => "nothing"
  | [a] => s!"`{a}`"
  | [a, b] => s!"`{a}` or `{b}`"
  | names => "one of " ++ ", ".intercalate (names.map fun a => s!"`{a}`")

/-- The wording of an error. -/
def Error.message : Error → String
  | .endInValue => "EOF while parsing a value"
  | .endInList => "EOF while parsing a list"
  | .endInObject => "EOF while parsing an object"
  | .endInString => "EOF while parsing a string"
  | .expectedValue => "expected value"
  | .expectedWord => "expected ident"
  | .expectedColon => "expected `:`"
  | .expectedCommaOrBracket => "expected `,` or `]`"
  | .expectedCommaOrBrace => "expected `,` or `\x7d`"
  | .keyNotString => "key must be a string"
  | .trailingComma => "trailing comma"
  | .trailingCharacters => "trailing characters"
  | .invalidNumber => "invalid number"
  | .numberOutOfRange => "number out of range"
  | .invalidEscape => "invalid escape"
  | .surrogateUnfinished => "unexpected end of hex escape"
  | .surrogateAlone => "lone leading surrogate in hex escape"
  | .controlCharacter => "control character (\\u0000-\\u001F) found while parsing a string"
  | .invalidType seen expected => s!"invalid type: {seen.describe}, expected {expected}"
  | .invalidValue n expected => s!"invalid value: integer `{n}`, expected {expected}"
  | .invalidLength n record elements =>
    let noun := if elements = 1 then "element" else "elements"
    s!"invalid length {n}, expected struct {record} with {elements} {noun}"
  | .missingField name => s!"missing field `{name}`"
  | .duplicateField name => s!"duplicate field `{name}`"
  | .unknownVariant name known => s!"unknown variant `{name}`, expected {alternatives known}"

end Lookout.Json
