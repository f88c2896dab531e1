import Lookout.Text.Lowercase.Table
import Lookout.Text.Lowercase.Context
/-!
# Lower case

Names of formats and of facings are compared without regard to case.  The lower case of a text is
Unicode's: character by character, except that the capital I with a dot above becomes two
characters and that a capital sigma at the end of a word becomes a final sigma.
-/

namespace Lookout.Text

/-- The lower case of one character, away from the end of a word. -/
def lowerChar (c : Char) : List Char :=
  if c.toNat < 0x80 then [c.toLower] else (replacement? lowerTable c).getD [c]

/-- Passing over the ignorable characters, the next character is cased. -/
def meetsCased (cs : List Char) : Bool :=
  match cs.dropWhile (inRanges ignorableRanges) with
  | c :: _ => inRanges casedRanges c
  | [] => false

/-- Lower case of `cs`, which stands after `before` (nearest character first). -/
def lowerAfter (before : List Char) : List Char → List Char
  | [] => []
  | c :: cs =>
    let lowered :=
      if c == '\u03A3' then
        if meetsCased before && !meetsCased cs then ['\u03C2'] else ['\u03C3']
      else lowerChar c
    lowered ++ lowerAfter (c :: before) cs

/-- The lower case of a text. -/
def lowercase (s : String) : String := String.ofList (lowerAfter [] s.toList)

end Lookout.Text
