/-!
# Tables of characters

Tables are written as texts: characters by their numbers in base sixteen, entries with blanks
between them.  An entry is a closed range (`300-33F`), a single character (`342`), or a run: the
first of some consecutive characters and what stands for each of them (`C0:41.300,41.301,,43.327`;
for those left empty nothing does).
-/

namespace Lookout.Text

/-- The value of a digit in base sixteen. -/
def hexDigit (c : Char) : Nat :=
  if c.isDigit then c.toNat - '0'.toNat else c.toNat - 'A'.toNat + 10

/-- A number in base sixteen. -/
def hexNumber (cs : List Char) : Nat := cs.foldl (fun n c => 16 * n + hexDigit c) 0

/-- The parts between the characters that satisfy `isBreak`. -/
def parts (isBreak : Char → Bool) : List Char → List (List Char)
  | [] => [[]]
  | c :: cs =>
    if isBreak c then [] :: parts isBreak cs
    else match parts isBreak cs with
      | part :: rest => (c :: part) :: rest
      | [] => [[c]]

/-- The entries of a table. -/
def entries (table : String) : List (List Char) :=
  (parts (fun c => c == ' ' || c == '\n') table.toList).filter (!·.isEmpty)

/-- A range or a single character. -/
def rangeEntry (entry : List Char) : Nat × Nat :=
  match (parts (· == '-') entry).map hexNumber with
  | [first, last] => (first, last)
  | [single] => (single, single)
  | _ => (0, 0)

/-- A table of ranges. -/
def ranges (table : String) : Array (Nat × Nat) := ((entries table).map rangeEntry).toArray

/-- The character lies in one of the closed ranges. -/
def inRanges (ranges : Array (Nat × Nat)) (c : Char) : Bool :=
  ranges.any fun (first, last) => first ≤ c.toNat && c.toNat ≤ last

/-- What stands for some consecutive characters. -/
structure Run where
  /-- The first of the characters. -/
  first : Nat
  /-- What stands for each; nothing does where it is empty. -/
  items : Array (List Char)

/-- A run. -/
def runEntry (entry : List Char) : Run :=
  match parts (· == ':') entry with
  | [first, items] =>
    ⟨hexNumber first, ((parts (· == ',') items).map fun item =>
      if item.isEmpty then []
      else (parts (· == '.') item).map fun n => Char.ofNat (hexNumber n)).toArray⟩
  | _ => ⟨0, #[]⟩

/-- A table of runs. -/
def runs (table : String) : Array Run := ((entries table).map runEntry).toArray

/-- What stands for a character. -/
def Run.item? (r : Run) (c : Char) : Option (List Char) :=
  if c.toNat < r.first then none else (r.items[c.toNat - r.first]?).filter (!·.isEmpty)

/-- What a table puts for a character. -/
def replacement? (table : Array Run) (c : Char) : Option (List Char) := table.findSome? (·.item? c)

/-- The single entries of a table of runs: a character and what stands for it. -/
def pairs (table : Array Run) : List (Char × List Char) :=
  table.toList.flatMap fun r =>
    (r.items.toList.zipIdx.map fun (item, i) => (Char.ofNat (r.first + i), item)).filter
      fun (_, item) => !item.isEmpty

end Lookout.Text
