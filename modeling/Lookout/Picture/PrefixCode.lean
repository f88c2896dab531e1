/-!
# Prefix codes

A prefix code gives every symbol a word of bits, none of which starts another.  It is determined by
the lengths of the words alone: words of one length are consecutive numbers in the order of their
symbols, and follow the shorter ones.
-/

namespace Lookout

/-- A prefix code. -/
structure PrefixCode where
  /-- How many words there are of each length; there are none of length zero. -/
  counts : Array Nat
  /-- The symbols, by the length of their words and then in their order. -/
  symbols : Array Nat

namespace PrefixCode

/-- The longest word. -/
def maxLength : Nat := 16

/-- How many words are left over once the words from `length` on are taken away from all words, of
which there are `spare` of the length before; `none` if there are not as many words. -/
def spareWords (counts : Array Nat) : Nat → Nat → Nat → Option Nat
  | 0, _, spare => some spare
  | fuel + 1, length, spare =>
    let used := counts[length]?.getD 0
    if spare * 2 < used then none else spareWords counts fuel (length + 1) (spare * 2 - used)

/-- The code with so many words of each length from one on, and with the given symbols. -/
def ofCounts? (counts : List Nat) (symbols : List Nat) : Option PrefixCode := do
  let counts := (0 :: counts).toArray
  let _ ← spareWords counts maxLength 1 1
  return ⟨counts, symbols.toArray⟩

/-- The code in which symbol `s` has a word of length `lengths[s]`; symbols of length zero have
none. -/
def ofLengths? (lengths : Array Nat) : Option PrefixCode :=
  let ofLength (l : Nat) : List Nat :=
    (List.range lengths.size).filter fun s => lengths[s]?.getD 0 == l
  let words := (List.range maxLength).map fun l => ofLength (l + 1)
  ofCounts? (words.map (·.length)) words.flatten

/-- Read on in a word: `word` holds its bits so far, `first` the first word of the present length
and `index` the number of shorter words. -/
def read? (c : PrefixCode) (bit : Nat → Option Nat) :
    Nat → (length word first index pos : Nat) → Option (Nat × Nat)
  | 0, _, _, _, _, _ => none
  | fuel + 1, length, word, first, index, pos => do
    let word := word * 2 + (← bit pos)
    let count := c.counts[length]?.getD 0
    if word < first + count then return (← c.symbols[index + (word - first)]?, pos + 1)
    else c.read? bit fuel (length + 1) word ((first + count) * 2) (index + count) (pos + 1)

/-- The symbol whose word is at a position, and the position after it. -/
def next? (c : PrefixCode) (bit : Nat → Option Nat) (pos : Nat) : Option (Nat × Nat) :=
  c.read? bit maxLength 1 0 0 0 pos

/-- The words of the symbols from `index` on, each with its length; `word` is the word of the first
of them if it is of the given length. -/
def wordsFrom (symbols : List Nat) : List Nat → (length word : Nat) → List (Nat × Nat × Nat)
  | [], _, _ => []
  | count :: counts, length, word =>
    ((symbols.take count).zipIdx.map fun (s, i) => (s, word + i, length))
      ++ wordsFrom (symbols.drop count) counts (length + 1) ((word + count) * 2)

/-- Every symbol with its word and the word's length. -/
def words (c : PrefixCode) : List (Nat × Nat × Nat) :=
  wordsFrom c.symbols.toList c.counts.toList 0 0

end PrefixCode

end Lookout
