import Lookout.Json.Number
/-!
# Blanks, words and strings

Readers take the rest of the text and give back what they read together with what is left.  A
string is read one character at a time by a small machine, since an escape may need to look at up
to twelve characters: a leading surrogate stands for nothing until the trailing one has been read.
-/

namespace Lookout.Json

/-- The four blanks of JSON. -/
def isBlank (c : Char) : Bool := c == ' ' || c == '\n' || c == '\t' || c == '\r'

/-- Pass over blanks. -/
def skipBlanks : List Char → List Char
  | [] => []
  | c :: cs => if isBlank c then skipBlanks cs else c :: cs

/-- Read the rest of a word. -/
def readWord : List Char → List Char → Except Error (List Char)
  | [], cs => .ok cs
  | _ :: _, [] => .error .endInValue
  | w :: ws, c :: cs => if c == w then readWord ws cs else .error .expectedWord

/-- The value of a hexadecimal digit. -/
def hexValue? (c : Char) : Option Nat :=
  if c.isDigit then some (c.toNat - 48)
  else if 'a' ≤ c ∧ c ≤ 'f' then some (c.toNat - 87)
  else if 'A' ≤ c ∧ c ≤ 'F' then some (c.toNat - 55)
  else none

/-- The value of exactly four hexadecimal digits. -/
def hexQuad? : List Char → Option Nat
  | [a, b, c, d] => do
    return (((← hexValue? a) * 16 + (← hexValue? b)) * 16 + (← hexValue? c)) * 16 + (← hexValue? d)
  | _ => none

/-- The length in octets of the UTF-8 form. -/
def octets (cs : List Char) : Nat := cs.foldl (fun n c => n + c.utf8Size) 0

/-- The character that a letter after a backslash stands for. -/
def simpleEscape? : Char → Option Char
  | '"' => some '"'
  | '\\' => some '\\'
  | '/' => some '/'
  | 'b' => some '\x08'
  | 'f' => some '\x0c'
  | 'n' => some '\n'
  | 'r' => some '\r'
  | 't' => some '\t'
  | _ => none

/-- Where the reader of a string stands. -/
inductive StringState where
  /-- Between characters. -/
  | plain
  /-- After a backslash. -/
  | escape
  /-- Within hexadecimal digits, after a leading surrogate if there was one; digits are judged once
  four octets have been seen. -/
  | hex (leading : Option Nat) (seen : List Char)
  /-- After a leading surrogate: a backslash has to follow. -/
  | wantBackslash (leading : Nat)
  /-- After a leading surrogate and a backslash: a `u` has to follow. -/
  | wantU (leading : Nat)

/-- What one character does to the reader of a string. -/
inductive StringStep where
  /-- Go on in this state, with a character appended if there is one. -/
  | goOn (state : StringState) (emit : Option Char)
  /-- The closing quote was read. -/
  | done

/-- Four octets of an escape have been seen: judge them. -/
def endOfHex (leading : Option Nat) (seen : List Char) : Except Error StringStep :=
  match hexQuad? seen with
  | none => .error .invalidEscape
  | some n =>
    match leading with
    | none =>
      if 0xDC00 ≤ n ∧ n ≤ 0xDFFF then .error .surrogateAlone
      else if 0xD800 ≤ n ∧ n ≤ 0xDBFF then .ok (.goOn (.wantBackslash n) none)
      else .ok (.goOn .plain (some (Char.ofNat n)))
    | some high =>
      if n < 0xDC00 ∨ 0xDFFF < n then .error .surrogateAlone
      else .ok (.goOn .plain (some (Char.ofNat ((high - 0xD800) * 0x400 + (n - 0xDC00) + 0x10000))))

/-- One character of a string. -/
def stringStep (state : StringState) (c : Char) : Except Error StringStep :=
  match state with
  | .plain =>
    if c == '"' then .ok .done
    else if c == '\\' then .ok (.goOn .escape none)
    else if c.toNat < 0x20 then .error .controlCharacter
    else .ok (.goOn .plain (some c))
  | .escape =>
    if c == 'u' then .ok (.goOn (.hex none []) none)
    else match simpleEscape? c with
      | some e => .ok (.goOn .plain (some e))
      | none => .error .invalidEscape
  | .hex leading seen =>
    let seen := seen ++ [c]
    if octets seen < 4 then .ok (.goOn (.hex leading seen) none) else endOfHex leading seen
  | .wantBackslash high =>
    if c == '\\' then .ok (.goOn (.wantU high) none) else .error .surrogateUnfinished
  | .wantU high =>
    if c == 'u' then .ok (.goOn (.hex (some high) []) none) else .error .surrogateUnfinished

/-- Read a string from a state on; `acc` holds its characters so far, the last one first. -/
def stringFrom (state : StringState) (acc : List Char) :
    List Char → Except Error (String × List Char)
  | [] => .error .endInString
  | c :: cs =>
    match stringStep state c with
    | .error e => .error e
    | .ok .done => .ok (String.ofList acc.reverse, cs)
    | .ok (.goOn state none) => stringFrom state acc cs
    | .ok (.goOn state (some d)) => stringFrom state (d :: acc) cs

/-- Read a string after its opening quote. -/
def readString (cs : List Char) : Except Error (String × List Char) := stringFrom .plain [] cs

end Lookout.Json
