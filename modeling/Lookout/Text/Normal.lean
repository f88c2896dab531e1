import Lookout.Text.Normal.Table
/-!
# Composed text

The same text can be written with composed characters or with letters and combining marks after
them.  Its normal form takes everything apart, puts the marks after each letter in the order of
their classes, and puts together again what can be.
-/

namespace Lookout.Text

/-! ## Syllables of Hangul -/

/-- The first syllable; the syllables are ordered by leading, vowel and trailing letter. -/
def firstSyllable : Nat := 0xAC00

/-- The first leading letter, of which there are 19. -/
def firstLeading : Nat := 0x1100

/-- The first vowel, of which there are 21. -/
def firstVowel : Nat := 0x1161

/-- The character before the first trailing letter; there are 27 of those. -/
def beforeTrailing : Nat := 0x11A7

/-- The character is a syllable. -/
def isSyllable (c : Char) : Bool :=
  firstSyllable ≤ c.toNat && c.toNat < firstSyllable + 19 * 21 * 28

/-- The letters of a syllable. -/
def syllableLetters (c : Char) : List Char :=
  let n := c.toNat - firstSyllable
  let leading := Char.ofNat (firstLeading + n / (21 * 28))
  let vowel := Char.ofNat (firstVowel + n % (21 * 28) / 28)
  if n % 28 = 0 then [leading, vowel] else [leading, vowel, Char.ofNat (beforeTrailing + n % 28)]

/-- The syllable of a leading letter and a vowel, or of a syllable that ends in a vowel and a
trailing letter. -/
def joinLetters? (a b : Char) : Option Char :=
  let (m, n) := (a.toNat, b.toNat)
  if firstLeading ≤ m ∧ m < firstLeading + 19 ∧ firstVowel ≤ n ∧ n < firstVowel + 21 then
    some (Char.ofNat (firstSyllable + ((m - firstLeading) * 21 + (n - firstVowel)) * 28))
  else if isSyllable a ∧ (m - firstSyllable) % 28 = 0 ∧ beforeTrailing < n ∧ n ≤ beforeTrailing + 27
  then some (Char.ofNat (m + (n - beforeTrailing)))
  else none

/-! ## Taking apart -/

/-- The class of a combining mark; zero for other characters. -/
def combiningClass (c : Char) : Nat :=
  ((classTable.find? fun (_, chars) => inRanges chars c).map (·.1)).getD 0

/-- The parts of a character; no character is put together in more than `depth` steps. -/
def takeApart : Nat → Char → List Char
  | 0, c => [c]
  | depth + 1, c =>
    if isSyllable c then syllableLetters c
    else match replacement? decompositionTable c with
      | some cs => cs
      | none =>
        match replacement? compositionTable c with
        | some (first :: rest) => takeApart depth first ++ rest
        | _ => [c]

/-- Put a character behind others, which come last one first; a mark goes before those marks at
their end that have a greater class. -/
def placeMark (c : Char) : List Char → List Char
  | [] => [c]
  | d :: ds =>
    if combiningClass c ≠ 0 ∧ combiningClass c < combiningClass d then d :: placeMark c ds
    else c :: d :: ds

/-- A text taken apart, marks in order. -/
def decomposed (cs : List Char) : List Char :=
  ((cs.flatMap (takeApart 4)).foldl (fun acc c => placeMark c acc) []).reverse

/-! ## Putting together -/

/-- The composed characters, each with its two parts. -/
def compositionPairs : List (Char × List Char) := pairs compositionTable

/-- The character that two others are put together to. -/
def compose? (a b : Char) : Option Char :=
  match joinLetters? a b with
  | some c => some c
  | none => (compositionPairs.find? fun (_, parts) => parts == [a, b]).map (·.1)

/-- Put characters together with the letter `start` before them.  The marks between, last one
first, could not be put together with it. -/
def composeFrom (start : Char) (marks : List Char) : List Char → List Char
  | [] => start :: marks.reverse
  | c :: cs =>
    let k := combiningClass c
    let isNext := match marks with
      | [] => true
      | m :: _ => combiningClass m < k
    match if isNext then compose? start c else none with
    | some composed => composeFrom composed marks cs
    | none =>
      if k = 0 then start :: marks.reverse ++ composeFrom c [] cs
      else composeFrom start (c :: marks) cs

/-- Put together what can be; marks with no letter before them stay as they are. -/
def composed : List Char → List Char
  | [] => []
  | c :: cs => if combiningClass c = 0 then composeFrom c [] cs else c :: composed cs

/-- The normal form of a text. -/
def normalForm (cs : List Char) : List Char := composed (decomposed cs)

end Lookout.Text
