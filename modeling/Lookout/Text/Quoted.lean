import Lookout.Text.Printable
/-!
# Texts in quotation marks

A text that is shown inside a message stands in double quotes, with everything in it that could be
mistaken for something else escaped: the quote and the backslash, the usual controls by a letter,
and any character that has no visible form of its own, or that would combine with the character
before it, by its number.
-/

namespace Lookout.Text

/-- A character inside a quoted text. -/
def quoteChar (c : Char) : List Char :=
  match c with
  | '\x00' => ['\\', '0']
  | '\t' => ['\\', 't']
  | '\r' => ['\\', 'r']
  | '\n' => ['\\', 'n']
  | '\\' => ['\\', '\\']
  | '"' => ['\\', '"']
  | c =>
    if ' ' ≤ c ∧ c ≤ '~' then [c]
    else if inRanges extendingRanges c || inRanges hiddenRanges c then
      ['\\', 'u', '\x7b'] ++ Nat.toDigits 16 c.toNat ++ ['\x7d']
    else [c]

/-- A text in double quotes. -/
def quote (s : String) : String :=
  String.ofList (['"'] ++ s.toList.flatMap quoteChar ++ ['"'])

end Lookout.Text
