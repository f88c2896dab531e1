import Lookout.Json.Token
/-!
# Passing over a value

A member nobody asked for is passed over, but it has to be JSON.  The value may be nested to any
depth, so it is read one character at a time by a machine that keeps the open lists and objects on
a stack of its own.

What counts as JSON here is the grammar and no more: numbers may be out of every range, and a
surrogate may stand alone.
-/

namespace Lookout.Json

/-- An open list or object. -/
inductive Bracket where
  /-- A list. -/
  | list
  /-- An object. -/
  | object
  deriving DecidableEq, Repr

/-- Where within a number the machine stands. -/
inductive NumberState where
  /-- After the minus sign. -/
  | sign
  /-- After a leading zero. -/
  | zero
  /-- Among the digits before the point. -/
  | whole
  /-- Right after the point. -/
  | point
  /-- Among the digits after the point. -/
  | fraction
  /-- Right after the letter of the exponent. -/
  | letter
  /-- After the sign of the exponent. -/
  | exponentSign
  /-- Among the digits of the exponent. -/
  | exponent
  deriving DecidableEq, Repr

/-- One more character of a number: the new state, or `none` if the number ended before it. -/
def NumberState.step (s : NumberState) (c : Char) : Except Error (Option NumberState) :=
  let isE := c == 'e' || c == 'E'
  match s with
  | .sign =>
    if c == '0' then .ok (some .zero)
    else if c.isDigit then .ok (some .whole) else .error .invalidNumber
  | .zero =>
    if c.isDigit then .error .invalidNumber
    else if c == '.' then .ok (some .point)
    else if isE then .ok (some .letter) else .ok none
  | .whole =>
    if c.isDigit then .ok (some .whole)
    else if c == '.' then .ok (some .point)
    else if isE then .ok (some .letter) else .ok none
  | .point => if c.isDigit then .ok (some .fraction) else .error .invalidNumber
  | .fraction =>
    if c.isDigit then .ok (some .fraction)
    else if isE then .ok (some .letter) else .ok none
  | .letter =>
    if c == '+' || c == '-' then .ok (some .exponentSign)
    else if c.isDigit then .ok (some .exponent) else .error .invalidNumber
  | .exponentSign => if c.isDigit then .ok (some .exponent) else .error .invalidNumber
  | .exponent => if c.isDigit then .ok (some .exponent) else .ok none

/-- A number may end in this state. -/
def NumberState.complete : NumberState → Bool
  | .zero | .whole | .fraction | .exponent => true
  | .sign | .point | .letter | .exponentSign => false

/-- Where within a string the machine stands. -/
inductive QuoteState where
  /-- Between characters. -/
  | plain
  /-- After a backslash. -/
  | escape
  /-- Within hexadecimal digits. -/
  | hex (seen : List Char)
  deriving DecidableEq, Repr

/-- One more character of a string: the new state, or `none` at the closing quote. -/
def QuoteState.step (s : QuoteState) (c : Char) : Except Error (Option QuoteState) :=
  match s with
  | .plain =>
    if c == '"' then .ok none
    else if c == '\\' then .ok (some .escape)
    else if c.toNat < 0x20 then .error .controlCharacter
    else .ok (some .plain)
  | .escape =>
    if c == 'u' then .ok (some (.hex []))
    else if (simpleEscape? c).isSome then .ok (some .plain)
    else .error .invalidEscape
  | .hex seen =>
    let seen := seen ++ [c]
    if octets seen < 4 then .ok (some (.hex seen))
    else if (hexQuad? seen).isSome then .ok (some .plain)
    else .error .invalidEscape

/-- Where the machine stands. -/
inductive SkipState where
  /-- A value has to come. -/
  | value
  /-- Right after the start of a list: a value or the end. -/
  | firstElement
  /-- Right after the start of an object: a key or the end. -/
  | firstKey
  /-- A key has to come. -/
  | key
  /-- Within a key. -/
  | inKey (state : QuoteState)
  /-- A colon has to come. -/
  | colon
  /-- Within a string. -/
  | inString (state : QuoteState)
  /-- Within a number. -/
  | inNumber (state : NumberState)
  /-- Within a word, of which these characters are still to come. -/
  | inWord (rest : List Char)
  /-- After a value inside a list or an object. -/
  | after
  deriving DecidableEq, Repr

/-- What one character does to the machine. -/
inductive SkipStep where
  /-- Go on in this state, with these open brackets. -/
  | goOn (state : SkipState) (stack : List Bracket)
  /-- The value is complete; the character belongs to it. -/
  | doneWith
  /-- The value is complete; the character comes after it. -/
  | doneBefore

/-- A value inside the given brackets has ended with the character just read. -/
def valueEnded : List Bracket → SkipStep
  | [] => .doneWith
  | stack => .goOn .after stack

/-- The first character of a value. -/
def startValue (stack : List Bracket) (c : Char) : Except Error SkipStep :=
  if c == 'n' then .ok (.goOn (.inWord ['u', 'l', 'l']) stack)
  else if c == 't' then .ok (.goOn (.inWord ['r', 'u', 'e']) stack)
  else if c == 'f' then .ok (.goOn (.inWord ['a', 'l', 's', 'e']) stack)
  else if c == '-' then .ok (.goOn (.inNumber .sign) stack)
  else if c == '0' then .ok (.goOn (.inNumber .zero) stack)
  else if c.isDigit then .ok (.goOn (.inNumber .whole) stack)
  else if c == '"' then .ok (.goOn (.inString .plain) stack)
  else if c == '[' then .ok (.goOn .firstElement (.list :: stack))
  else if c == '\x7b' then .ok (.goOn .firstKey (.object :: stack))
  else .error .expectedValue

/-- The character after a value that stands inside `bracket`. -/
def afterValue (bracket : Bracket) (stack : List Bracket) (c : Char) : Except Error SkipStep :=
  if isBlank c then .ok (.goOn .after (bracket :: stack))
  else
    match bracket with
    | .list =>
      if c == ',' then .ok (.goOn .value (.list :: stack))
      else if c == ']' then .ok (valueEnded stack)
      else .error .expectedCommaOrBracket
    | .object =>
      if c == ',' then .ok (.goOn .key (.object :: stack))
      else if c == '\x7d' then .ok (valueEnded stack)
      else .error .expectedCommaOrBrace

/-- One character. -/
def skipStep (state : SkipState) (stack : List Bracket) (c : Char) : Except Error SkipStep :=
  match state with
  | .value => if isBlank c then .ok (.goOn .value stack) else startValue stack c
  | .firstElement =>
    if isBlank c then .ok (.goOn .firstElement stack)
    else if c == ']' then .ok (valueEnded stack.tail)
    else startValue stack c
  | .firstKey =>
    if isBlank c then .ok (.goOn .firstKey stack)
    else if c == '\x7d' then .ok (valueEnded stack.tail)
    else if c == '"' then .ok (.goOn (.inKey .plain) stack)
    else .error .keyNotString
  | .key =>
    if isBlank c then .ok (.goOn .key stack)
    else if c == '"' then .ok (.goOn (.inKey .plain) stack)
    else .error .keyNotString
  | .inKey s => do
    match ← s.step c with
    | some s => return .goOn (.inKey s) stack
    | none => return .goOn .colon stack
  | .colon =>
    if isBlank c then .ok (.goOn .colon stack)
    else if c == ':' then .ok (.goOn .value stack)
    else .error .expectedColon
  | .inString s => do
    match ← s.step c with
    | some s => return .goOn (.inString s) stack
    | none => return valueEnded stack
  | .inWord rest =>
    match rest with
    | [] => .error .expectedWord
    | w :: ws =>
      if c != w then .error .expectedWord
      else if ws.isEmpty then .ok (valueEnded stack)
      else .ok (.goOn (.inWord ws) stack)
  | .inNumber s => do
    match ← s.step c with
    | some s => return .goOn (.inNumber s) stack
    | none =>
      match stack with
      | [] => return .doneBefore
      | bracket :: stack => afterValue bracket stack c
  | .after =>
    match stack with
    | [] => .ok .doneBefore
    | bracket :: stack => afterValue bracket stack c

/-- What is missing if the text ends inside the given brackets. -/
def endInside : List Bracket → Error
  | [] => .endInValue
  | .list :: _ => .endInList
  | .object :: _ => .endInObject

/-- The text has ended. -/
def skipEnd (state : SkipState) (stack : List Bracket) : Except Error Unit :=
  match state with
  | .value | .inWord _ => .error .endInValue
  | .inKey _ | .inString _ => .error .endInString
  | .firstElement | .firstKey | .key | .colon | .after => .error (endInside stack)
  | .inNumber s =>
    if !s.complete then .error .invalidNumber
    else match stack with
      | [] => .ok ()
      | stack => .error (endInside stack)

/-- Run the machine from a state on. -/
def skipFrom (state : SkipState) (stack : List Bracket) : List Char → Except Error (List Char)
  | [] => do skipEnd state stack; return []
  | c :: cs =>
    match skipStep state stack c with
    | .error e => .error e
    | .ok .doneWith => .ok cs
    | .ok .doneBefore => .ok (c :: cs)
    | .ok (.goOn state stack) => skipFrom state stack cs

/-- Pass over one value of any kind. -/
def skipValue (cs : List Char) : Except Error (List Char) := skipFrom .value [] cs

end Lookout.Json
