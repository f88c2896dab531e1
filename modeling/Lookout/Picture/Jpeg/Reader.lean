import Lookout.Octets.BigEndian
import Lookout.Picture.Jpeg.Tables
import Lookout.Picture.PrefixCode
import Lookout.Picture.Raster
/-!
# Reading JPEG

A file is a sequence of segments with tables, the size of the picture, and scans.  A scan holds the
blocks of some planes one after the other, from time to time with a mark at which reading starts
afresh.  Files that refine a picture step by step, and files with four colours, are not read.
-/

namespace Lookout.Jpeg

open Octets

/-! ## What a file holds -/

/-- A plane of a picture. -/
structure Plane where
  /-- Its number in the file. -/
  id : Nat
  /-- Blocks side by side in a place. -/
  across : Nat
  /-- Blocks below each other in a place. -/
  down : Nat
  /-- The table with the steps of its coefficients. -/
  table : Nat
  /-- Its blocks, row by row. -/
  blocks : Array (Array Int) := #[]
  /-- How many blocks there are in a row. -/
  stride : Nat := 0

/-- A picture before its colours are put together. -/
structure Planes where
  /-- The width. -/
  width : Nat
  /-- The height. -/
  height : Nat
  /-- The planes. -/
  planes : Array Plane

/-- What is known after some segments. -/
structure Progress where
  /-- Steps of coefficients, in the order in which they are written. -/
  steps : Array (Array Nat) := Array.replicate 4 #[]
  /-- Codes for the first coefficients, and then for the others. -/
  codes : Array (Option PrefixCode) := Array.replicate 8 none
  /-- How many places there are between marks; none if there are no marks. -/
  restart : Nat := 0
  /-- The colours are brightness and differences. -/
  differences : Bool := true
  /-- The picture, once its size is known. -/
  picture : Option Planes := none
  /-- A scan was read. -/
  scanned : Bool := false

namespace Planes

/-- The most blocks side by side in a place. -/
def across (p : Planes) : Nat := p.planes.foldl (fun n q => max n q.across) 1

/-- The most blocks below each other in a place. -/
def down (p : Planes) : Nat := p.planes.foldl (fun n q => max n q.down) 1

/-- How many places there are in a row. -/
def placesAcross (p : Planes) : Nat := (p.width + 8 * p.across - 1) / (8 * p.across)

/-- How many rows of places there are. -/
def placesDown (p : Planes) : Nat := (p.height + 8 * p.down - 1) / (8 * p.down)

end Planes

/-! ## Tables -/

/-- Read tables of steps. -/
def readSteps? (data : ByteArray) : Nat → Nat → Array (Array Nat) → Option (Array (Array Nat))
  | 0, _, tables => some tables
  | fuel + 1, pos, tables =>
    if data.size ≤ pos then some tables
    else do
      let head ← natAt? data pos 1
      let size := if head / 16 = 0 then 1 else 2
      let table ← (List.range 64).mapM fun i => natAt? data (pos + 1 + i * size) size
      readSteps? data fuel (pos + 1 + 64 * size) (tables.setIfInBounds (head % 16) table.toArray)

/-- Read codes. -/
def readCodes? (data : ByteArray) :
    Nat → Nat → Array (Option PrefixCode) → Option (Array (Option PrefixCode))
  | 0, _, codes => some codes
  | fuel + 1, pos, codes =>
    if data.size ≤ pos then some codes
    else do
      let head ← natAt? data pos 1
      let counts ← (List.range 16).mapM fun i => natAt? data (pos + 1 + i) 1
      let symbols ← (List.range counts.sum).mapM fun i => natAt? data (pos + 17 + i) 1
      let code ← PrefixCode.ofCounts? counts symbols
      if 1 < head / 16 ∨ 3 < head % 16 then none
      readCodes? data fuel (pos + 17 + counts.sum)
        (codes.setIfInBounds (head / 16 * 4 + head % 16) (some code))

/-- Read the size of the picture and its planes, which are empty at first. -/
def readPlanes? (data : ByteArray) : Option Planes := do
  let depth ← natAt? data 0 1
  let height ← nat16? data 1
  let width ← nat16? data 3
  let count ← natAt? data 5 1
  if depth ≠ 8 ∨ width = 0 ∨ height = 0 ∨ !([1, 3].contains count) then none
  let planes ← (List.range count).mapM fun i => do
    let id ← natAt? data (6 + 3 * i) 1
    let sampling ← natAt? data (7 + 3 * i) 1
    let table ← natAt? data (8 + 3 * i) 1
    let plane : Plane := { id, across := sampling / 16, down := sampling % 16, table }
    if plane.across = 0 ∨ 4 < plane.across ∨ plane.down = 0 ∨ 4 < plane.down then none
    return plane
  let picture : Planes := { width, height, planes := planes.toArray }
  let sized := picture.planes.map fun q =>
    let stride := picture.placesAcross * q.across
    { q with
      stride
      blocks := Array.replicate (stride * picture.placesDown * q.down) (Array.replicate 64 0) }
  return { picture with planes := sized }

/-! ## Scans -/

/-- Where the data of a scan ends: at the first mark that does not start it afresh. -/
def scanEnd (data : ByteArray) : Nat → Nat → Nat
  | 0, pos => pos
  | fuel + 1, pos =>
    if data.size ≤ pos + 1 then data.size
    else
      let mark := octetAt data (pos + 1)
      if octetAt data pos = 0xFF ∧ mark ≠ 0 ∧ ¬(0xD0 ≤ mark ∧ mark ≤ 0xD7) ∧ mark ≠ 0xFF then pos
      else scanEnd data fuel (pos + 1)

/-- The data of a scan, cut at the marks and without the zeros that follow an octet of ones. -/
def pieces (data : ByteArray) (stop : Nat) : Nat → Nat → ByteArray → List ByteArray
  | 0, _, piece => [piece]
  | fuel + 1, pos, piece =>
    if stop ≤ pos then [piece]
    else
      let octet := octetAt data pos
      if octet = 0xFF then
        let mark := octetAt data (pos + 1)
        if mark = 0 then pieces data stop fuel (pos + 2) (piece.push octet)
        else if mark = 0xFF then pieces data stop fuel (pos + 1) piece
        else piece :: pieces data stop fuel (pos + 2) .empty
      else pieces data stop fuel (pos + 1) (piece.push octet)

/-- The bit at a position; bits are counted from the highest of each octet. -/
def bit? (data : ByteArray) (pos : Nat) : Option Nat :=
  data[pos / 8]?.map fun octet => (octet.toNat >>> (7 - pos % 8)) % 2

/-- The number of `count` bits at a position, the highest first. -/
def bits? (data : ByteArray) (pos : Nat) : Nat → Option Nat
  | 0 => some 0
  | count + 1 => do
    let high ← bits? data pos count
    return high * 2 + (← bit? data (pos + count))

/-- Read a number of the given size; those whose highest bit is not set are negative. -/
def readNumber? (data : ByteArray) (pos size : Nat) : Option (Int × Nat) := do
  let n ← bits? data pos size
  return (if size ≠ 0 ∧ n < 1 <<< (size - 1) then (n : Int) - (1 <<< size : Nat) + 1 else n, pos + size)

/-- Read the coefficients from the `index`th on. -/
def readOthers? (code : PrefixCode) (steps : Array Nat) (data : ByteArray) :
    Nat → Nat → Nat → Array Int → Option (Array Int × Nat)
  | 0, _, pos, block => some (block, pos)
  | fuel + 1, index, pos, block =>
    if 64 ≤ index then some (block, pos)
    else do
      let (symbol, pos) ← code.next? (bit? data) pos
      if symbol = 0 then return (block, pos)
      else
        let index := index + symbol / 16
        let (n, pos) ← readNumber? data pos (symbol % 16)
        let place := diagonal[index]?.getD 0
        let step := steps[index]?.getD 0
        readOthers? code steps data fuel (index + 1) pos
          (if index < 64 then block.setIfInBounds place (n * step) else block)

/-- What is needed to read a plane. -/
structure Reading where
  /-- The plane's position in the picture. -/
  plane : Nat
  /-- The code of first coefficients. -/
  first : PrefixCode
  /-- The code of the others. -/
  others : PrefixCode
  /-- The steps of coefficients. -/
  steps : Array Nat

/-- Read a block; `before` is the first coefficient of the block before. -/
def readBlock? (r : Reading) (data : ByteArray) (before : Int) (pos : Nat) :
    Option (Array Int × Int × Nat) := do
  let (size, pos) ← r.first.next? (bit? data) pos
  let (change, pos) ← readNumber? data pos size
  let first := before + change
  let block := (Array.replicate 64 (0 : Int)).setIfInBounds 0 (first * (r.steps[0]?.getD 0 : Nat))
  let (block, pos) ← readOthers? r.others r.steps data 64 1 pos block
  return (block, first, pos)

/-- The state of a scan: the planes, the first coefficients of the blocks before, and a position. -/
structure ScanState where
  /-- The planes. -/
  planes : Array Plane
  /-- The first coefficient of the last block of every plane. -/
  before : Array Int
  /-- Where to read on, in bits. -/
  pos : Nat

/-- Put a block into a plane. -/
def Plane.put (p : Plane) (column row : Nat) (block : Array Int) : Plane :=
  match p with
  | ⟨id, across, down, table, blocks, stride⟩ =>
    ⟨id, across, down, table, blocks.setIfInBounds (row * stride + column) block, stride⟩

/-- Read a block of a plane into a column and a row of blocks. -/
def readInto? (data : ByteArray) (r : Reading) (column row : Nat) (s : ScanState) :
    Option ScanState := do
  let (block, first, pos) ← readBlock? r data (s.before[r.plane]?.getD 0) s.pos
  match s with
  | ⟨planes, before, _⟩ =>
    return ⟨planes.modify r.plane fun p => p.put column row block, before.setIfInBounds r.plane first, pos⟩

/-- The blocks of a plane in a place. -/
def blocksOf (p : Plane) (r : Reading) (column row : Nat) : List (Reading × Nat × Nat) :=
  (List.range (p.across * p.down)).map fun i =>
    (r, column * p.across + i % p.across, row * p.down + i / p.across)

/-- Read a list of blocks. -/
def readList? (data : ByteArray) : List (Reading × Nat × Nat) → ScanState → Option ScanState
  | [], s => some s
  | (r, column, row) :: rest, s => do readList? data rest (← readInto? data r column row s)

/-- Read pieces, each with its blocks. -/
def readPieces? : List (ByteArray × List (Reading × Nat × Nat)) → Array Plane → Option (Array Plane)
  | [], planes => some planes
  | (data, blocks) :: rest, planes => do
    let s ← readList? data blocks ⟨planes, planes.map fun _ => 0, 0⟩
    readPieces? rest s.planes

/-- Lists of `size` elements each, the last one perhaps shorter. -/
def groups {α : Type} (size : Nat) : Nat → List α → List (List α)
  | 0, xs => [xs]
  | fuel + 1, xs => if xs.length ≤ size then [xs] else xs.take size :: groups size fuel (xs.drop size)

/-- The blocks of a scan in their order, place by place.  A plane that is alone in a scan has a
place for every block that holds some of the picture. -/
def scanOrder (picture : Planes) (readings : List Reading) : List (List (Reading × Nat × Nat)) :=
  match readings with
  | [r] =>
    let p := picture.planes[r.plane]?.getD ⟨0, 1, 1, 0, #[], 0⟩
    let side (size most own : Nat) : Nat := ((size * own + most - 1) / most + 7) / 8
    let columns := side picture.width picture.across p.across
    let rows := side picture.height picture.down p.down
    (List.range (columns * rows)).map fun i => [(r, i % columns, i / columns)]
  | readings =>
    let columns := picture.placesAcross
    (List.range (columns * picture.placesDown)).map fun i =>
      readings.flatMap fun r =>
        match picture.planes[r.plane]? with
        | some p => blocksOf p r (i % columns) (i / columns)
        | none => []

/-- The header of a scan. -/
def readReadings? (p : Progress) (picture : Planes) (header : ByteArray) : Option (List Reading) := do
  let count ← natAt? header 0 1
  if count = 0 then none
  (List.range count).mapM fun i => do
    let id ← natAt? header (1 + 2 * i) 1
    let codes ← natAt? header (2 + 2 * i) 1
    let plane ← picture.planes.findIdx? (·.id == id)
    let table := (picture.planes[plane]?.map (·.table)).getD 0
    let first ← (← p.codes[codes / 16]?)
    let others ← (← p.codes[4 + codes % 16]?)
    let steps ← p.steps[table]?
    if steps.isEmpty then none
    return ⟨plane, first, others, steps⟩

/-- Read a scan whose data starts at a position. -/
def readScan? (p : Progress) (header data : ByteArray) (start stop : Nat) : Option Progress := do
  let picture ← p.picture
  let readings ← readReadings? p picture header
  let order := scanOrder picture readings
  let parts := pieces data stop (stop - start + 1) start .empty
  let blocks := (if p.restart = 0 then [order] else groups p.restart order.length order).map List.flatten
  if parts.length < blocks.length then none
  let planes ← readPieces? (parts.zip blocks) picture.planes
  return { p with picture := some { picture with planes }, scanned := true }

/-! ## Segments -/

/-- Take note of a segment. -/
def readSegment? (p : Progress) (mark : Nat) (data : ByteArray) : Option Progress :=
  match mark with
  | 0xDB => do return { p with steps := ← readSteps? data data.size 0 p.steps }
  | 0xC4 => do return { p with codes := ← readCodes? data data.size 0 p.codes }
  | 0xDD => do return { p with restart := ← nat16? data 0 }
  | 0xC0 => do return { p with picture := some (← readPlanes? data) }
  | 0xC1 => do return { p with picture := some (← readPlanes? data) }
  | 0xEE => some (if data.extract 0 5 == "Adobe".toUTF8 ∧ natAt? data 11 1 = some 0
      then { p with differences := false } else p)
  | _ => if 0xC0 ≤ mark ∧ mark ≤ 0xCF ∧ mark ≠ 0xC8 ∧ mark ≠ 0xCC then none else some p

/-- Read segments from a position up to the end of the picture, or of the file if a scan came
before that. -/
def readSegments? (data : ByteArray) : Nat → Nat → Progress → Option Progress
  | 0, _, _ => none
  | fuel + 1, pos, p =>
    match nat16? data pos with
    | none => if p.scanned then some p else none
    | some n =>
      if n / 256 ≠ 0xFF then none
      else if n = 0xFFFF then readSegments? data fuel (pos + 1) p
      else if n = 0xFFD9 then if p.scanned then some p else none
      else do
        let length ← nat16? data (pos + 2)
        let contents ← slice? data (pos + 4) (pos + 2 + length)
        let next := pos + 2 + length
        if n = 0xFFDA then
          let stop := scanEnd data data.size next
          readSegments? data fuel stop (← readScan? p contents data next stop)
        else readSegments? data fuel next (← readSegment? p (n % 256) contents)

/-- The size of the picture, from the first segment that gives it. -/
def findSize? (data : ByteArray) : Nat → Nat → Option (Nat × Nat)
  | 0, _ => none
  | fuel + 1, pos => do
    let mark ← nat16? data pos
    let length ← nat16? data (pos + 2)
    if mark = 0xFFC0 ∨ mark = 0xFFC1 ∨ mark = 0xFFC2 then
      return (← nat16? data (pos + 7), ← nat16? data (pos + 5))
    else findSize? data fuel (pos + 2 + length)

/-- The size of the picture in a file. -/
def size? (data : ByteArray) : Option (Nat × Nat) := findSize? data data.size 2

/-! ## Colours -/

/-- The value of a plane at a place of the picture, from its blocks with the waves added up. -/
def sampleAt (picture : Planes) (p : Plane) (x y : Nat) : Int :=
  let x := x * p.across / picture.across
  let y := y * p.down / picture.down
  match p.blocks[y / 8 * p.stride + x / 8]? with
  | some block => entry block (x % 8) (y % 8) + 128
  | none => 0

/-- The nearest value of a channel. -/
def toChannel (n : Int) : UInt8 := (min n 255).toNat.toUInt8

/-- The colour with a brightness and two differences. -/
def ofDifferences (bright blue red : Int) : Rgb :=
  ⟨toChannel (bright + roundQuot (1402 * (red - 128)) 1000),
    toChannel (bright - roundQuot (344136 * (blue - 128) + 714136 * (red - 128)) 1000000),
    toChannel (bright + roundQuot (1772 * (blue - 128)) 1000)⟩

/-- The pixel in a column and a row. -/
def pixelAt (differences : Bool) (picture : Planes) (x y : Nat) : Rgb :=
  match picture.planes.toList with
  | [grey] =>
    let v := toChannel (sampleAt picture grey x y)
    ⟨v, v, v⟩
  | [a, b, c] =>
    let a := sampleAt picture a x y
    let b := sampleAt picture b x y
    let c := sampleAt picture c x y
    if differences then ofDifferences a b c else ⟨toChannel a, toChannel b, toChannel c⟩
  | _ => {}

/-- Read a file. -/
def decode? (data : ByteArray) : Option (Raster Rgb) := do
  if nat16? data 0 ≠ some 0xFFD8 then none
  let p ← readSegments? data (data.size + 1) 2 {}
  let picture ← p.picture
  let planes := picture.planes.map fun q => { q with blocks := q.blocks.map ofWaves }
  let picture := { picture with planes }
  return Raster.build picture.width picture.height (pixelAt p.differences picture)

end Lookout.Jpeg
