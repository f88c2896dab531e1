import Lookout.Json.Skip
/-!
# Reading a text of a known shape

The program never holds a JSON document.  It describes what it wants (`Shape`), and one pass over
the text either finds it (`Datum`) or stops at the first thing that is wrong, be it syntax or type.

A record may be written as an object, with its members in any order and members nobody asked for
among them, or as a list of its fields in their order.  In an object, a field may be left out if it
is optional or has a default; in a list only those at the end that have a default.
-/

namespace Lookout.Json

/-- Whether a field of a record may be left out. -/
inductive Absence where
  /-- It may not. -/
  | required
  /-- It may be left out of an object, but not of a list. -/
  | optional
  /-- It may be left out of both. -/
  | defaulted
  deriving DecidableEq, Repr

mutual
/-- What a text may hold. -/
inductive Shape where
  /-- A whole number of 64 bits with a sign. -/
  | int64
  /-- A whole number below `2 ^ 32`. -/
  | nat32
  /-- A whole number below `2 ^ 64`. -/
  | nat64
  /-- A number of single precision. -/
  | real32
  /-- A string. -/
  | text
  /-- A string that names a file. -/
  | path
  /-- One of the given names. -/
  | choice (names : List String)
  /-- `null` or something of the given shape. -/
  | optional (of : Shape)
  /-- A list of things of one shape. -/
  | sequence (of : Shape)
  /-- A record with the given name and fields. -/
  | record (name : String) (fields : Fields)

/-- The fields of a record in their order. -/
inductive Fields where
  /-- No field. -/
  | nil
  /-- A field and the fields after it. -/
  | cons (name : String) (absence : Absence) (shape : Shape) (rest : Fields)
end

namespace Fields

/-- How many fields there are. -/
def count : Fields → Nat
  | .nil => 0
  | .cons _ _ _ rest => rest.count + 1

/-- The fields given one after the other. -/
def ofList : List (String × Absence × Shape) → Fields
  | [] => .nil
  | (name, absence, shape) :: rest => .cons name absence shape (ofList rest)

end Fields

/-- What was found in a text. -/
inductive Datum where
  /-- An optional thing that is not there. -/
  | absent
  /-- A whole number. -/
  | integer (value : Int)
  /-- A number of single precision. -/
  | real (value : Float32)
  /-- A string. -/
  | text (value : String)
  /-- One of the names of a choice, by its position. -/
  | choice (index : Nat)
  /-- The elements of a list. -/
  | list (elements : List Datum)
  /-- The fields of a record in their order. -/
  | record (fields : List Datum)
  deriving Inhabited

namespace Datum

/-- The whole number, if there is one. -/
def integer? : Datum → Option Int
  | .integer n => some n
  | _ => none

/-- The natural number, if there is one. -/
def natural? : Datum → Option Nat
  | .integer n => some n.toNat
  | _ => none

/-- The real number, if there is one. -/
def real? : Datum → Option Float32
  | .real x => some x
  | _ => none

/-- The string, if there is one. -/
def text? : Datum → Option String
  | .text s => some s
  | _ => none

/-- The chosen name's position, if there is one. -/
def choice? : Datum → Option Nat
  | .choice i => some i
  | _ => none

/-- The elements, if there is a list. -/
def list? : Datum → Option (List Datum)
  | .list ds => some ds
  | _ => none

/-- The field at a position of a record; absent if there is none. -/
def field (d : Datum) (i : Nat) : Datum :=
  match d with
  | .record ds => ds.getD i .absent
  | _ => .absent

/-- The thing itself, unless it is absent. -/
def present? : Datum → Option Datum
  | .absent => none
  | d => some d

end Datum

/-- What the fields of a record hold so far. -/
abbrev Slots := List (Option Datum)

/-! ## Values without parts -/

/-- The text goes on with something that is not of the expected kind. -/
def wrongType {α : Type} (expected : String) (cs : List Char) : Except Error α :=
  let seen : Except Error Seen :=
    match cs with
    | [] => .error .endInValue
    | c :: rest =>
      if c == 'n' then do let _ ← readWord ['u', 'l', 'l'] rest; return .null
      else if c == 't' then do let _ ← readWord ['r', 'u', 'e'] rest; return .boolean true
      else if c == 'f' then do let _ ← readWord ['a', 'l', 's', 'e'] rest; return .boolean false
      else if c == '-' || c.isDigit then do let (n, _) ← readNumber cs; return n.seen
      else if c == '"' then do let (s, _) ← readString rest; return .text s
      else if c == '[' then .ok .sequence
      else if c == '\x7b' then .ok .map
      else .error .expectedValue
  match seen with
  | .error e => .error e
  | .ok seen => .error (.invalidType seen expected)

/-- A number comes next. -/
def startsNumber : List Char → Bool
  | c :: _ => c == '-' || c.isDigit
  | [] => false

/-- Read a whole number from `low` up to, but not including, `high`. -/
def readInteger (expected : String) (low high : Int) (cs : List Char) :
    Except Error (Datum × List Char) :=
  let cs := skipBlanks cs
  if startsNumber cs then do
    match ← readNumber cs with
    | (.whole n, rest) =>
      if low ≤ n ∧ n < high then return (.integer n, rest) else .error (.invalidValue n expected)
    | (.real x, _) => .error (.invalidType (.real x) expected)
  else wrongType expected cs

/-- A number in single precision.  Whole numbers are rounded once, others from the binary64 number
that was read. -/
def Number.single : Number → Float32
  | .whole n => if n < 0 then -(Float32.ofNat (-n).toNat) else Float32.ofNat n.toNat
  | .real x => x.toFloat32

/-- Read a number of single precision. -/
def readReal (cs : List Char) : Except Error (Datum × List Char) :=
  let cs := skipBlanks cs
  if startsNumber cs then do
    let (n, rest) ← readNumber cs
    return (.real n.single, rest)
  else wrongType "f32" cs

/-- Read a string. -/
def readText (expected : String) (cs : List Char) : Except Error (String × List Char) :=
  match skipBlanks cs with
  | '"' :: rest => readString rest
  | cs => wrongType expected cs

/-- The position of a name among the known ones. -/
def findName (names : List String) (name : String) : Except Error Datum :=
  match names.findIdx? (· == name) with
  | some i => .ok (.choice i)
  | none => .error (.unknownVariant name names)

/-- Read the colon after a key. -/
def readColon (cs : List Char) : Except Error (List Char) :=
  match skipBlanks cs with
  | ':' :: rest => .ok rest
  | [] => .error .endInObject
  | _ => .error .expectedColon

/-- Read one of the given names: a string, or an object with the name as its only key and `null` as
the value. -/
def readChoice (names : List String) (cs : List Char) : Except Error (Datum × List Char) :=
  match skipBlanks cs with
  | [] => .error .endInValue
  | '"' :: rest => do
    let (name, rest) ← readString rest
    return (← findName names name, rest)
  | '\x7b' :: rest => do
    let (name, rest) ← readText "variant identifier" rest
    let found ← findName names name
    let rest ← readColon rest
    match skipBlanks rest with
    | 'n' :: rest =>
      let rest ← readWord ['u', 'l', 'l'] rest
      match skipBlanks rest with
      | '\x7d' :: rest => return (found, rest)
      | [] => .error .endInObject
      | _ => .error .expectedValue
    | rest => wrongType "unit" rest
  | _ => .error .expectedValue

/-! ## Lists and objects -/

/-- Whether another element of a list follows; the text is advanced to it. -/
def nextElement (first : Bool) (cs : List Char) : Except Error (Option (List Char)) :=
  match skipBlanks cs with
  | [] => .error .endInList
  | c :: rest =>
    if c == ']' then .ok none
    else if first then .ok (some (c :: rest))
    else if c == ',' then
      match skipBlanks rest with
      | [] => .error .endInValue
      | ']' :: _ => .error .trailingComma
      | rest => .ok (some rest)
    else .error .expectedCommaOrBracket

/-- Whether another member of an object follows; the text is advanced past the quote that opens its
key. -/
def nextMember (first : Bool) (cs : List Char) : Except Error (Option (List Char)) :=
  match skipBlanks cs with
  | [] => .error .endInObject
  | c :: rest =>
    if c == '\x7d' then .ok none
    else if first then if c == '"' then .ok (some rest) else .error .keyNotString
    else if c == ',' then
      match skipBlanks rest with
      | [] => .error .endInValue
      | '"' :: rest => .ok (some rest)
      | '\x7d' :: _ => .error .trailingComma
      | _ => .error .keyNotString
    else .error .expectedCommaOrBrace

/-- The end of a list that has to come now. -/
def endList (cs : List Char) : Except Error (List Char) :=
  match skipBlanks cs with
  | [] => .error .endInList
  | ']' :: rest => .ok rest
  | ',' :: rest =>
    match skipBlanks rest with
    | ']' :: _ => .error .trailingComma
    | _ => .error .trailingCharacters
  | _ => .error .trailingCharacters

/-- The elements of a list, each read by `item`; `acc` holds those before, the last one first. -/
def readElements (item : List Char → Except Error (Datum × List Char)) :
    Nat → Bool → List Datum → List Char → Except Error (List Datum × List Char)
  | 0, _, _, _ => .error .endInList
  | fuel + 1, first, acc, cs => do
    match ← nextElement first cs with
    | none => return (acc.reverse, ← endList cs)
    | some cs =>
      let (d, cs) ← item cs
      readElements item fuel false (d :: acc) cs

/-- The members of an object, each read into the slots by `member`. -/
def readMembers (member : String → Slots → List Char → Except Error (Slots × List Char)) :
    Nat → Bool → Slots → List Char → Except Error (Slots × List Char)
  | 0, _, _, _ => .error .endInObject
  | fuel + 1, first, slots, cs => do
    match ← nextMember first cs with
    | none => return (slots, (skipBlanks cs).tail)
    | some cs =>
      let (key, cs) ← readString cs
      let (slots, cs) ← member key slots cs
      readMembers member fuel false slots cs

/-- A slot for every field, all empty. -/
def Fields.emptySlots : Fields → Slots
  | .nil => []
  | .cons _ _ _ rest => none :: rest.emptySlots

/-- What the slots hold once the object has ended; a required field has to be there. -/
def Fields.complete : Fields → Slots → Except Error (List Datum)
  | .cons name absence _ rest, slot :: slots => do
    let d ← match slot, absence with
      | some d, _ => .ok d
      | none, .required => .error (.missingField name)
      | none, _ => .ok .absent
    return d :: (← rest.complete slots)
  | _, _ => .ok []

mutual
/-- Read something of the given shape.  The fuel bounds the number of elements and members of any
one list or object; the length of the text is enough. -/
def readShape : Shape → Nat → List Char → Except Error (Datum × List Char)
  | .int64, _, cs => readInteger "i64" (-0x8000000000000000) 0x8000000000000000 cs
  | .nat32, _, cs => readInteger "u32" 0 0x100000000 cs
  | .nat64, _, cs => readInteger "u64" 0 0x10000000000000000 cs
  | .real32, _, cs => readReal cs
  | .text, _, cs => do
    let (s, rest) ← readText "a string" cs
    return (.text s, rest)
  | .path, _, cs => do
    let (s, rest) ← readText "path string" cs
    return (.text s, rest)
  | .choice names, _, cs => readChoice names cs
  | .optional of, fuel, cs =>
    match skipBlanks cs with
    | 'n' :: rest => do return (.absent, ← readWord ['u', 'l', 'l'] rest)
    | cs => readShape of fuel cs
  | .sequence of, fuel, cs =>
    match skipBlanks cs with
    | '[' :: rest => do
      let (ds, rest) ← readElements (fun cs => readShape of fuel cs) fuel true [] rest
      return (.list ds, rest)
    | cs => wrongType "a sequence" cs
  | .record name fields, fuel, cs =>
    match skipBlanks cs with
    | '\x7b' :: rest => do
      let (slots, rest) ← readMembers (fun key slots cs => readMember fields fuel key slots cs)
        fuel true fields.emptySlots rest
      return (.record (← fields.complete slots), rest)
    | '[' :: rest => do
      let (ds, rest) ← readInOrder name fields.count fields fuel 0 rest
      return (.record ds, ← endList rest)
    | cs => wrongType s!"struct {name}" cs

/-- Read the member with the given key: into the field's slot if there is such a field, and into
nothing otherwise. -/
def readMember : Fields → Nat → String → Slots → List Char → Except Error (Slots × List Char)
  | .cons name _ shape rest, fuel, key, slot :: slots, cs =>
    if key == name then
      if slot.isSome then .error (.duplicateField name)
      else do
        let (d, cs) ← readShape shape fuel (← readColon cs)
        return (some d :: slots, cs)
    else do
      let (slots, cs) ← readMember rest fuel key slots cs
      return (slot :: slots, cs)
  | _, _, _, slots, cs => do
    let cs ← skipValue (← readColon cs)
    return (slots, cs)

/-- Read the fields of the record `name` of `total` fields from a list, the fields before
`position` having been dealt with. -/
def readInOrder (name : String) (total : Nat) :
    Fields → Nat → Nat → List Char → Except Error (List Datum × List Char)
  | .nil, _, _, cs => .ok ([], cs)
  | .cons _ absence shape rest, fuel, position, cs => do
    match ← nextElement (position == 0) cs with
    | some cs =>
      let (d, cs) ← readShape shape fuel cs
      let (ds, cs) ← readInOrder name total rest fuel (position + 1) cs
      return (d :: ds, cs)
    | none =>
      if absence = .defaulted then
        let (ds, cs) ← readInOrder name total rest fuel (position + 1) cs
        return (.absent :: ds, cs)
      else .error (.invalidLength position name total)
end

/-- Read a whole text of the given shape. -/
def read (shape : Shape) (text : String) : Except Error Datum := do
  let cs := text.toList
  let (d, rest) ← readShape shape (cs.length + 1) cs
  match skipBlanks rest with
  | [] => return d
  | _ => .error .trailingCharacters

end Lookout.Json
