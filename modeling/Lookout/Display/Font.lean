import Lookout.Config.Error
import Lookout.Octets.BigEndian
/-!
# Fonts

A font file is a directory of tables.  A file is taken for a font if its tables say how large its
units are, how lines are spaced and how many glyphs there are.  A file that collects several fonts
stands for the first of them.

Outlines of glyphs are not drawn, so labels in a font leave the display as it is.
-/

namespace Lookout

/-- A font for labels. -/
structure Font where
  /-- Units in the side of the square that glyphs are drawn in. -/
  unitsPerEm : Nat
  /-- How many glyphs there are. -/
  glyphCount : Nat
  deriving DecidableEq, Repr

/-- Why there is no font. -/
inductive FontError where
  /-- The file at a path could not be read. -/
  | unreadable (path : String) (cause : FileFault)
  /-- The file at a path is no font. -/
  | invalid (path : String)
  deriving DecidableEq, Repr

/-- The wording of an error. -/
def FontError.message : FontError → String
  | .unreadable path cause => s!"failed to read font {path}: {cause.message}"
  | .invalid path => s!"invalid font {path}: InvalidFont"

namespace Font

open Octets

/-- The marks that a single font may start with. -/
def fontMarks : List Nat := [0x00010000, 0x74727565, 0x4F54544F]

/-- The mark that a collection of fonts starts with. -/
def collectionMark : Nat := 0x74746366

/-- Where the directory of tables starts: after the mark of the font, or of the first font of a
collection. -/
def directoryStart? (data : ByteArray) : Option Nat := do
  let mark ← nat32? data 0
  if fontMarks.contains mark then return 4
  else if mark = collectionMark then
    let count ← nat32? data 8
    if data.size < 12 + 4 * count then none
    let start ← if count = 0 then none else nat32? data 12
    if start < 12 + 4 * count then none
    if fontMarks.contains (← nat32? data start) then return start + 4 else none
  else none

/-- The last entry for a table among `count` entries of the directory from position `pos` on; a
table that reaches beyond the file is empty. -/
def findTable (data : ByteArray) (tag : Nat) : Nat → Nat → ByteArray → ByteArray
  | 0, _, found => found
  | count + 1, pos, found =>
    let here : Option ByteArray := do
      if (← nat32? data pos) = tag then
        let start ← nat32? data (pos + 8)
        let length ← nat32? data (pos + 12)
        return (slice? data start (start + length)).getD .empty
      else none
    findTable data tag count (pos + 16) (here.getD found)

/-- A table of the font, empty if there is none. -/
def table? (data : ByteArray) (tag : Nat) : Option ByteArray := do
  let start ← directoryStart? data
  let count ← nat16? data start
  if data.size < start + 8 + 16 * count then none
  return findTable data tag count (start + 8) .empty

/-- The size of the units, from the table about the font as a whole. -/
def readUnits (header : ByteArray) : Option Nat := do
  if header.size < 54 then none
  let units ← nat16? header 18
  let offsets ← nat16? header 50
  if offsets ≤ 1 ∧ 16 ≤ units ∧ units ≤ 16384 then return units else none

/-- The number of glyphs, from the table about the space they need. -/
def readGlyphCount (profile : ByteArray) : Option Nat := do
  let version ← nat32? profile 0
  let count ← nat16? profile 4
  if (version = 0x5000 ∨ version = 0x10000) ∧ count ≠ 0 then return count else none

/-- Read a font file. -/
def parse? (data : ByteArray) : Option Font := do
  let units ← readUnits (← table? data 0x68656164)
  let _ ← nat16? (← table? data 0x68686561) 34
  let glyphs ← readGlyphCount (← table? data 0x6D617870)
  return ⟨units, glyphs⟩

/-- Load the font in the file at a path, given what it holds. -/
def load (path : String) (contents : Except FileFault ByteArray) : Except FontError Font :=
  match contents with
  | .error cause => .error (.unreadable path cause)
  | .ok data =>
    match parse? data with
    | some font => .ok font
    | none => .error (.invalid path)

end Font

end Lookout
