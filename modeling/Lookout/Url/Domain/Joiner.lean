import Lookout.Text.Normal
import Lookout.Url.Domain.ClassTable
/-!
# Joiners in domain names

Two characters are not seen: one keeps letters apart and one joins them.  They may stand only where
they make a difference: after a sign that drops a vowel, and the one that keeps apart also between
letters that would join.
-/

namespace Lookout.Url

open Text

/-- The character that keeps letters apart. -/
def nonJoiner : Char := '\u200C'

/-- The character that joins letters. -/
def joiner : Char := '\u200D'

/-- The combining class of the signs that drop a vowel. -/
def vowelDropClass : Nat := 9

/-- The letter joins what follows it. -/
def joinsNext (c : Char) : Bool := inRanges leftJoiningTable c || inRanges dualJoiningTable c

/-- The letter joins what stands before it. -/
def joinsPrevious (c : Char) : Bool := inRanges rightJoiningTable c || inRanges dualJoiningTable c

/-- The first letter, those aside that letters join across, satisfies `p`. -/
def firstLetter (p : Char → Bool) (cs : List Char) : Bool :=
  (cs.dropWhile (inRanges transparentTable)).head?.any p

/-- The joiners of a label stand where they may; `before` is the part before it, last character
first. -/
def joinersFit (before : List Char) : List Char → Bool
  | [] => true
  | c :: cs =>
    let dropsVowel := before.head?.any (combiningClass · = vowelDropClass)
    let fits :=
      if c = nonJoiner then
        dropsVowel || (firstLetter joinsNext before && firstLetter joinsPrevious cs)
      else if c = joiner then dropsVowel
      else true
    fits && joinersFit (c :: before) cs

end Lookout.Url
