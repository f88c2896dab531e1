import Lookout.Octets.BigEndian
import Lookout.Picture.Jpeg.Tables
import Lookout.Picture.PrefixCode
import Lookout.Picture.Raster
/-!
# Writing JPEG

A picture is cut into blocks of 8 by 8, each colour on its own.  Of every block the amounts of the
waves in it are kept, the finer ones less exactly, and written with the tables of the standard.
-/

namespace Lookout.Jpeg

/-! ## Colours -/

/-- Brightness and the two differences of colour, each around zero. -/
def toPlane (p : Rgb) : Nat → Int
  | 0 => roundQuot (299 * p.red.toNat + 587 * p.green.toNat + 114 * p.blue.toNat) 1000 - 128
  | 1 => roundQuot (-168736 * p.red.toNat - 331264 * p.green.toNat + 500000 * p.blue.toNat) 1000000
  | _ => roundQuot (500000 * p.red.toNat - 418688 * p.green.toNat - 81312 * p.blue.toNat) 1000000

/-- The block of a plane in a column and a row of blocks; beyond its edge the picture goes on as it
ends. -/
def blockAt (r : Raster Rgb) (plane column row : Nat) : Array Int :=
  blockOf fun x y =>
    let x := min (column * 8 + x) (r.width - 1)
    let y := min (row * 8 + y) (r.height - 1)
    toPlane (r.pixels[y * r.width + x]?.getD {}) plane

/-- What is kept of a block, in the order in which it is written. -/
def keep (block : Array Int) : List Int :=
  let amounts := toWaves block
  diagonal.toList.map fun place =>
    roundQuot (amounts[place]?.getD 0) ((steps[place]?.getD 1 : Nat) : Int)

/-! ## Bits -/

/-- Octets written so far, and bits that do not fill an octet yet. -/
structure BitSink where
  /-- Full octets. -/
  octets : ByteArray
  /-- The number of the bits that are left over. -/
  rest : Nat
  /-- How many there are. -/
  count : Nat

namespace BitSink

/-- Write full octets while there are some; an octet of ones is followed by zeros. -/
def flush : Nat → BitSink → BitSink
  | 0, s => s
  | fuel + 1, ⟨octets, rest, count⟩ =>
    if count < 8 then ⟨octets, rest, count⟩
    else
      let octet := (rest >>> (count - 8)).toUInt8
      let octets := octets.push octet
      flush fuel
        ⟨if octet = 0xFF then octets.push 0 else octets, rest % (1 <<< (count - 8)), count - 8⟩

/-- Write the `count` lowest bits of a number. -/
def write (s : BitSink) (bits count : Nat) : BitSink :=
  flush 8 { s with rest := s.rest <<< count + bits % (1 <<< count), count := s.count + count }

end BitSink

/-- The word of each symbol and its length. -/
def wordTable (counts symbols : List Nat) : Array (Nat × Nat) :=
  match PrefixCode.ofCounts? counts symbols with
  | some code => code.words.foldl (fun t (s, word) => t.setIfInBounds s word) (Array.replicate 256 (0, 0))
  | none => #[]

/-- The words for the first coefficient of a block. -/
def firstWords : Array (Nat × Nat) := wordTable firstCounts firstSymbols

/-- The words for the other coefficients. -/
def otherWords : Array (Nat × Nat) := wordTable otherCounts otherSymbols

/-- How many bits the size of a number has. -/
def bitSize (n : Int) : Nat := if n = 0 then 0 else Nat.log2 n.natAbs + 1

/-- Write the word of a symbol. -/
def writeWord (words : Array (Nat × Nat)) (symbol : Nat) (s : BitSink) : BitSink :=
  let (word, length) := words[symbol]?.getD (0, 0)
  s.write word length

/-- Write a number in as many bits as its size has; negative numbers are one less. -/
def writeNumber (n : Int) (s : BitSink) : BitSink :=
  let size := bitSize n
  s.write (if n < 0 then n + (1 <<< size : Nat) - 1 else n).toNat size

/-- Write the coefficients after the first; `zeros` counts the zeros since the last that was not. -/
def writeOthers (zeros : Nat) : List Int → BitSink → BitSink
  | [], s => if zeros = 0 then s else writeWord otherWords 0 s
  | n :: ns, s =>
    if n = 0 then writeOthers (zeros + 1) ns s
    else
      let s := (zeros / 16).fold (fun _ _ s => writeWord otherWords 0xF0 s) s
      writeOthers 0 ns (writeNumber n (writeWord otherWords (zeros % 16 * 16 + bitSize n) s))

/-- Write a block, given the first coefficient of the block before; the first coefficient is given
back. -/
def writeBlock (before : Int) (kept : List Int) (s : BitSink) : Int × BitSink :=
  match kept with
  | [] => (before, s)
  | first :: others =>
    let change := first - before
    let s := writeNumber change (writeWord firstWords (bitSize change) s)
    (first, writeOthers 0 others s)

/-- Write the three blocks of a place. -/
def writePlace (r : Raster Rgb) (column row : Nat) (state : (Int × Int × Int) × BitSink) :
    (Int × Int × Int) × BitSink :=
  let ((a, b, c), s) := state
  let (a, s) := writeBlock a (keep (blockAt r 0 column row)) s
  let (b, s) := writeBlock b (keep (blockAt r 1 column row)) s
  let (c, s) := writeBlock c (keep (blockAt r 2 column row)) s
  ((a, b, c), s)

/-- The blocks of a picture, the last octet filled up with ones. -/
def entropy (r : Raster Rgb) : ByteArray :=
  let columns := (r.width + 7) / 8
  let rows := (r.height + 7) / 8
  let (_, s) := (columns * rows).fold (fun i _ state => writePlace r (i % columns) (i / columns) state)
    ((0, 0, 0), ⟨.empty, 0, 0⟩)
  (s.write 127 7).octets

/-! ## The file -/

/-- A segment: its mark, its length and its contents. -/
def segment (mark : UInt8) (contents : List UInt8) : ByteArray :=
  ⟨([0xFF, mark] ++ Octets.write16 (contents.length + 2) ++ contents).toArray⟩

/-- A table of words. -/
def wordSegment (place : UInt8) (counts symbols : List Nat) : ByteArray :=
  segment 0xC4 (place :: (counts ++ symbols).map (·.toUInt8))

/-- The steps in the order in which coefficients are written. -/
def stepSegment : ByteArray :=
  segment 0xDB (0 :: (diagonal.toList.map fun place => (steps[place]?.getD 1).toUInt8))

/-- The size of a picture and its three planes. -/
def frameSegment (width height : Nat) : ByteArray :=
  segment 0xC0 (8 :: (Octets.write16 height ++ Octets.write16 width
    ++ [3, 1, 0x11, 0, 2, 0x11, 0, 3, 0x11, 0]))

/-- The greatest side that fits the header. -/
def maxSide : Nat := 65535

/-- A picture as a file; `none` if a side does not fit the header. -/
def encode? (r : Raster Rgb) : Option ByteArray :=
  if maxSide < r.width ∨ maxSide < r.height then none
  else some <|
    ⟨#[0xFF, 0xD8]⟩
      ++ segment 0xE0 [0x4A, 0x46, 0x49, 0x46, 0, 1, 2, 0, 0, 1, 0, 1, 0, 0]
      ++ stepSegment ++ frameSegment r.width r.height
      ++ wordSegment 0x00 firstCounts firstSymbols ++ wordSegment 0x10 otherCounts otherSymbols
      ++ segment 0xDA [3, 1, 0, 2, 0, 3, 0, 0, 63, 0]
      ++ entropy r ++ ⟨#[0xFF, 0xD9]⟩

end Lookout.Jpeg
