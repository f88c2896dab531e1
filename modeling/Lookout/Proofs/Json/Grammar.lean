import Lookout.Json.Token
/-!
# JSON documents

What a JSON text is, said without regard to how it is read.  A value is a tree that keeps the
spelling of its parts and the blanks between them, so that every tree is well formed and its
characters are a function of it (`Value.chars`).  A text is a JSON document if it is the characters
of a value with blanks around it (`IsDocument`), of any length and any depth.

Numbers are given by their grammar (`IsNumber`), strings by their pieces (`Piece`).  Not every
string stands for a text: a surrogate may stand alone in it, and then it is JSON all the same but
means nothing (`decodePieces`).
-/

namespace Lookout.Json

/-- Blanks, any number of them. -/
def Blanks : Type := { cs : List Char // ∀ c ∈ cs, isBlank c = true }

namespace Blanks

/-- The characters. -/
def chars (b : Blanks) : List Char := b.1

/-- No blanks. -/
def none : Blanks := ⟨[], by simp⟩

/-- One more blank. -/
def cons (c : Char) (h : isBlank c = true) (b : Blanks) : Blanks :=
  ⟨c :: b.1, by simpa [h] using b.2⟩

/-- Blanks and then more of them. -/
def append (a b : Blanks) : Blanks :=
  ⟨a.1 ++ b.1, fun c hc => (List.mem_append.mp hc).elim (a.2 c) (b.2 c)⟩

@[simp] theorem chars_none : none.chars = [] := rfl

@[simp] theorem chars_cons (c : Char) (h : isBlank c = true) (b : Blanks) :
    (cons c h b).chars = c :: b.chars := rfl

@[simp] theorem chars_append (a b : Blanks) : (a.append b).chars = a.chars ++ b.chars := rfl

end Blanks

/-- Something with blanks around it. -/
structure Padded (α : Type) where
  /-- The blanks before it. -/
  before : Blanks
  /-- The thing itself. -/
  inner : α
  /-- The blanks after it. -/
  after : Blanks

/-! ### Numbers -/

/-- Digits, any number of them, and then something else. -/
inductive Digits (Then : List Char → Prop) : List Char → Prop where
  /-- No further digit. -/
  | done {cs : List Char} (h : Then cs) : Digits Then cs
  /-- A digit, and more of this. -/
  | digit {c : Char} {cs : List Char} (hc : c.isDigit = true) (h : Digits Then cs) :
    Digits Then (c :: cs)

/-- Digits, at least one of them, and then something else. -/
inductive SomeDigits (Then : List Char → Prop) : List Char → Prop where
  /-- A digit, and then any number of them. -/
  | digit {c : Char} {cs : List Char} (hc : c.isDigit = true) (h : Digits Then cs) :
    SomeDigits Then (c :: cs)

/-- What may follow the letter of an exponent: a sign or none, and digits. -/
inductive AfterLetter : List Char → Prop where
  /-- Digits. -/
  | unsigned {cs : List Char} (h : SomeDigits (· = []) cs) : AfterLetter cs
  /-- A sign and digits. -/
  | signed {c : Char} {cs : List Char} (hc : c = '+' ∨ c = '-') (h : SomeDigits (· = []) cs) :
    AfterLetter (c :: cs)

/-- An exponent or nothing. -/
inductive OptionalExponent : List Char → Prop where
  /-- Nothing. -/
  | none : OptionalExponent []
  /-- An exponent. -/
  | some {c : Char} {cs : List Char} (hc : c = 'e' ∨ c = 'E') (h : AfterLetter cs) :
    OptionalExponent (c :: cs)

/-- A fraction or nothing, and then an exponent or nothing. -/
inductive OptionalFraction : List Char → Prop where
  /-- No fraction. -/
  | none {cs : List Char} (h : OptionalExponent cs) : OptionalFraction cs
  /-- A point and digits. -/
  | some {cs : List Char} (h : SomeDigits OptionalExponent cs) : OptionalFraction ('.' :: cs)

/-- A number without its sign: its digits before the point do not start with a zero unless that is
all of them. -/
inductive IsUnsigned : List Char → Prop where
  /-- A zero before the point. -/
  | zero {cs : List Char} (h : OptionalFraction cs) : IsUnsigned ('0' :: cs)
  /-- Any other digits before the point. -/
  | digits {c : Char} {cs : List Char} (hc : c.isDigit = true) (hne : c ≠ '0')
    (h : Digits OptionalFraction cs) : IsUnsigned (c :: cs)

/-- The characters of a number. -/
inductive IsNumber : List Char → Prop where
  /-- A number without a sign. -/
  | positive {cs : List Char} (h : IsUnsigned cs) : IsNumber cs
  /-- A number with a minus sign. -/
  | negative {cs : List Char} (h : IsUnsigned cs) : IsNumber ('-' :: cs)

/-! ### Strings -/

/-- A piece of a string. -/
inductive Piece where
  /-- A character that stands for itself. -/
  | plain (c : Char) (h : c ≠ '"' ∧ c ≠ '\\' ∧ 0x20 ≤ c.toNat)
  /-- A backslash and a letter that stands for a character. -/
  | escape (c : Char) (h : (simpleEscape? c).isSome)
  /-- A backslash, a `u` and four hexadecimal digits. -/
  | unit (digits : List Char) (h : (hexQuad? digits).isSome)

namespace Piece

/-- The characters of a piece. -/
def chars : Piece → List Char
  | .plain c _ => [c]
  | .escape c _ => ['\\', c]
  | .unit digits _ => '\\' :: 'u' :: digits

end Piece

/-- The characters of a string between its quotes. -/
def piecesChars (ps : List Piece) : List Char := ps.flatMap Piece.chars

/-- The characters of a string. -/
def quoted (ps : List Piece) : List Char := '"' :: piecesChars ps ++ ['"']

/-- The text that a string stands for.  Two units stand for one character if they are a leading and
a trailing surrogate; a surrogate that is not part of such a pair stands for nothing. -/
def decodePieces : List Piece → Option (List Char)
  | [] => some []
  | .plain c _ :: ps => (decodePieces ps).map (c :: ·)
  | .escape c h :: ps => (decodePieces ps).map ((simpleEscape? c).get h :: ·)
  | .unit digits h :: ps =>
    let n := (hexQuad? digits).get h
    if 0xDC00 ≤ n ∧ n ≤ 0xDFFF then none
    else if 0xD800 ≤ n ∧ n ≤ 0xDBFF then
      match ps with
      | .unit digits h :: ps =>
        let low := (hexQuad? digits).get h
        if 0xDC00 ≤ low ∧ low ≤ 0xDFFF then
          (decodePieces ps).map (Char.ofNat ((n - 0xD800) * 0x400 + (low - 0xDC00) + 0x10000) :: ·)
        else none
      | _ => none
    else (decodePieces ps).map (Char.ofNat n :: ·)

/-! ### Values -/

/-- A JSON value. -/
inductive Value where
  /-- The word `null`. -/
  | null
  /-- One of the words `true` and `false`. -/
  | boolean (value : Bool)
  /-- A number. -/
  | number (chars : List Char) (h : IsNumber chars)
  /-- A string. -/
  | text (pieces : List Piece)
  /-- A list; blanks may stand after its bracket. -/
  | list (inner : Blanks) (elements : List (Padded Value))
  /-- An object; blanks may stand after its brace. -/
  | object (inner : Blanks) (members : List (Padded (List Piece) × Padded Value))

/-- A member of an object: its key and its value. -/
abbrev Member := Padded (List Piece) × Padded Value

mutual

/-- The characters of a value. -/
def Value.chars : Value → List Char
  | .null => ['n', 'u', 'l', 'l']
  | .boolean true => ['t', 'r', 'u', 'e']
  | .boolean false => ['f', 'a', 'l', 's', 'e']
  | .number cs _ => cs
  | .text ps => quoted ps
  | .list inner es => '[' :: inner.chars ++ (elementsChars es).tail ++ [']']
  | .object inner ms => '\x7b' :: inner.chars ++ (membersChars ms).tail ++ ['\x7d']

/-- The characters of some elements, each with a comma before it. -/
def elementsChars : List (Padded Value) → List Char
  | [] => []
  | e :: es => ',' :: e.before.chars ++ e.inner.chars ++ e.after.chars ++ elementsChars es

/-- The characters of some members, each with a comma before it. -/
def membersChars : List Member → List Char
  | [] => []
  | m :: ms =>
    ',' :: m.1.before.chars ++ quoted m.1.inner ++ m.1.after.chars ++ ':' :: m.2.before.chars ++
      m.2.inner.chars ++ m.2.after.chars ++ membersChars ms

end

/-- The text is the document: a value, and nothing but blanks around it. -/
def IsDocument (text : String) (d : Padded Value) : Prop :=
  text.toList = d.before.chars ++ d.inner.chars ++ d.after.chars

/-! ### Blanks -/

/-- Passing over blanks goes on behind those that are known. -/
@[simp] theorem skipBlanks_append (b : Blanks) (cs : List Char) :
    skipBlanks (b.chars ++ cs) = skipBlanks cs := by
  obtain ⟨bs, hbs⟩ := b
  show skipBlanks (bs ++ cs) = _
  induction bs with
  | nil => rfl
  | cons c bs ih =>
    rw [List.cons_append, skipBlanks, if_pos (hbs c List.mem_cons_self)]
    exact ih fun d hd => hbs d (List.mem_cons_of_mem _ hd)

/-- What is passed over are blanks. -/
theorem exists_blanks (cs : List Char) : ∃ b : Blanks, cs = b.chars ++ skipBlanks cs := by
  induction cs with
  | nil => exact ⟨.none, rfl⟩
  | cons c cs ih =>
    unfold skipBlanks
    by_cases hc : isBlank c = true
    · rw [if_pos hc]
      obtain ⟨b, hb⟩ := ih
      exact ⟨.cons c hc b, congrArg (c :: ·) hb⟩
    · rw [if_neg hc]
      exact ⟨.none, rfl⟩

/-- A character that is no blank is not passed over. -/
theorem skipBlanks_cons {c : Char} (hc : isBlank c = false) (cs : List Char) :
    skipBlanks (c :: cs) = c :: cs := by
  rw [skipBlanks, if_neg (by simp [hc])]

end Lookout.Json
