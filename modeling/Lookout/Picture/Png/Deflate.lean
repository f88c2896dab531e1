import Lookout.Octets.BigEndian
import Lookout.Picture.Png.Checksum
import Lookout.Picture.PrefixCode
/-!
# Compressed octets

Compressed data is a sequence of blocks.  A block holds its octets as they are, or as symbols of a
prefix code, fixed or given with the block: single octets, and references to octets that came
before.

* `inflate` undoes any compression.
* `store` writes blocks of the first kind, which is the least that a writer has to do.
-/

namespace Lookout.Deflate

/-! ## Bits -/

/-- The bit at a position; bits are counted from the lowest of each octet. -/
def bit? (data : ByteArray) (pos : Nat) : Option Nat :=
  data[pos / 8]?.map fun octet => (octet.toNat >>> (pos % 8)) % 2

/-- The number of `count` bits at a position, the lowest first. -/
def bits? (data : ByteArray) (pos : Nat) : Nat → Option Nat
  | 0 => some 0
  | count + 1 => do
    let low ← bits? data pos count
    let high ← bit? data (pos + count)
    return low + (high <<< count)

/-! ## Blocks of symbols -/

/-- For each symbol of a length: the least length, and how many more bits follow. -/
def lengthRows : Array (Nat × Nat) := #[
  (3, 0), (4, 0), (5, 0), (6, 0), (7, 0), (8, 0), (9, 0), (10, 0), (11, 1), (13, 1), (15, 1),
  (17, 1), (19, 2), (23, 2), (27, 2), (31, 2), (35, 3), (43, 3), (51, 3), (59, 3), (67, 4),
  (83, 4), (99, 4), (115, 4), (131, 5), (163, 5), (195, 5), (227, 5), (258, 0)]

/-- For each symbol of a distance: the least distance, and how many more bits follow. -/
def distanceRows : Array (Nat × Nat) := #[
  (1, 0), (2, 0), (3, 0), (4, 0), (5, 1), (7, 1), (9, 2), (13, 2), (17, 3), (25, 3), (33, 4),
  (49, 4), (65, 5), (97, 5), (129, 6), (193, 6), (257, 7), (385, 7), (513, 8), (769, 8),
  (1025, 9), (1537, 9), (2049, 10), (3073, 10), (4097, 11), (6145, 11), (8193, 12), (12289, 12),
  (16385, 13), (24577, 13)]

/-- Append `count` octets, each a copy of the one `distance` before it. -/
def copyBack (distance : Nat) : Nat → ByteArray → ByteArray
  | 0, out => out
  | count + 1, out => copyBack distance count (out.push (Octets.octetAt out (out.size - distance)))

/-- Read the number that a symbol of a table stands for. -/
def readRow? (rows : Array (Nat × Nat)) (symbol : Nat) (data : ByteArray) (pos : Nat) :
    Option (Nat × Nat) := do
  let (least, count) ← rows[symbol]?
  return (least + (← bits? data pos count), pos + count)

/-- Read symbols up to the end of a block.  Every symbol takes a bit, so the number of bits is
enough fuel. -/
def readSymbols? (literals distances : PrefixCode) (data : ByteArray) :
    Nat → Nat → ByteArray → Option (ByteArray × Nat)
  | 0, _, _ => none
  | fuel + 1, pos, out => do
    let (symbol, pos) ← literals.next? (bit? data) pos
    if symbol < 256 then readSymbols? literals distances data fuel pos (out.push symbol.toUInt8)
    else if symbol = 256 then return (out, pos)
    else
      let (length, pos) ← readRow? lengthRows (symbol - 257) data pos
      let (symbol, pos) ← distances.next? (bit? data) pos
      let (distance, pos) ← readRow? distanceRows symbol data pos
      if out.size < distance then none
      else readSymbols? literals distances data fuel pos (copyBack distance length out)

/-- The fixed code of octets and lengths. -/
def fixedLiterals : Array Nat := Array.ofFn fun s : Fin 288 =>
  if s.val < 144 then 8 else if s.val < 256 then 9 else if s.val < 280 then 7 else 8

/-- The fixed code of distances. -/
def fixedDistances : Array Nat := Array.replicate 30 5

/-- The order in which a block gives the lengths of the words for lengths. -/
def lengthOrder : List Nat := [16, 17, 18, 0, 8, 7, 9, 6, 10, 5, 11, 4, 12, 3, 13, 2, 14, 1, 15]

/-- Read `total` lengths of words; runs of one length are abbreviated. -/
def readLengths? (code : PrefixCode) (data : ByteArray) (total : Nat) :
    Nat → Nat → Array Nat → Option (Array Nat × Nat)
  | 0, _, _ => none
  | fuel + 1, pos, lengths =>
    if total ≤ lengths.size then if lengths.size = total then some (lengths, pos) else none
    else do
      let (symbol, pos) ← code.next? (bit? data) pos
      if symbol < 16 then readLengths? code data total fuel pos (lengths.push symbol)
      else
        let (value, least, count) ←
          if symbol = 16 then lengths.back?.map fun l => (l, 3, 2)
          else if symbol = 17 then some (0, 3, 3)
          else some (0, 11, 7)
        let run := least + (← bits? data pos count)
        readLengths? code data total fuel (pos + count) (lengths ++ Array.replicate run value)

/-- Read the codes that a block brings along. -/
def readCodes? (data : ByteArray) (pos : Nat) : Option (PrefixCode × PrefixCode × Nat) := do
  let literalCount := (← bits? data pos 5) + 257
  let distanceCount := (← bits? data (pos + 5) 5) + 1
  let orderCount := (← bits? data (pos + 10) 4) + 4
  let pos := pos + 14
  let given ← (List.range orderCount).mapM fun i => bits? data (pos + 3 * i) 3
  let lengths := (lengthOrder.zip given).foldl (fun ls (symbol, l) => ls.setIfInBounds symbol l)
    (Array.replicate 19 0)
  let code ← PrefixCode.ofLengths? lengths
  let total := literalCount + distanceCount
  let (lengths, pos) ← readLengths? code data total (total + 1) (pos + 3 * orderCount) #[]
  let literals ← PrefixCode.ofLengths? (lengths.extract 0 literalCount)
  let distances ← PrefixCode.ofLengths? (lengths.extract literalCount total)
  return (literals, distances, pos)

/-! ## Blocks -/

/-- Read a block of octets as they are. -/
def readStored? (data : ByteArray) (pos : Nat) (out : ByteArray) : Option (ByteArray × Nat) := do
  let start := (pos + 7) / 8
  let length ← bits? data (start * 8) 16
  let check ← bits? data (start * 8 + 16) 16
  if length + check ≠ 65535 then none
  let octets ← Octets.slice? data (start + 4) (start + 4 + length)
  return (out ++ octets, (start + 4 + length) * 8)

/-- Read blocks up to the last one.  Every block takes a bit. -/
def readBlocks? (data : ByteArray) : Nat → Nat → ByteArray → Option ByteArray
  | 0, _, _ => none
  | fuel + 1, pos, out => do
    let last ← bit? data pos
    let kind ← bits? data (pos + 1) 2
    let pos := pos + 3
    let symbolFuel := data.size * 8
    let (out, pos) ←
      if kind = 0 then readStored? data pos out
      else if kind = 1 then do
        readSymbols? (← PrefixCode.ofLengths? fixedLiterals) (← PrefixCode.ofLengths? fixedDistances) data
          symbolFuel pos out
      else if kind = 2 then do
        let (literals, distances, pos) ← readCodes? data pos
        readSymbols? literals distances data symbolFuel pos out
      else none
    if last = 1 then return out else readBlocks? data fuel pos out

/-- The octets that compressed data, with its header of two octets, stands for. -/
def inflate? (data : ByteArray) : Option ByteArray := do
  let header ← Octets.nat16? data 0
  if header / 256 % 16 ≠ 8 ∨ header % 31 ≠ 0 ∨ header / 32 % 2 = 1 then none
  readBlocks? data (data.size * 8) 16 .empty

/-! ## Writing -/

/-- The most octets in a block of octets as they are. -/
def storedLimit : Nat := 65535

/-- A number in two octets, the lower first. -/
def write16Low (n : Nat) : List UInt8 := [n.toUInt8, (n / 256).toUInt8]

/-- Blocks that hold the octets from `pos` on as they are; there are `count` blocks before the last
one. -/
def storeBlocks (data : ByteArray) : Nat → Nat → ByteArray → ByteArray
  | 0, pos, out =>
    let octets := data.extract pos data.size
    out ++ ⟨(1 :: write16Low octets.size ++ write16Low (65535 - octets.size)).toArray⟩ ++ octets
  | count + 1, pos, out =>
    storeBlocks data count (pos + storedLimit) <|
      out ++ ⟨(0 :: write16Low storedLimit ++ write16Low 0).toArray⟩
        ++ data.extract pos (pos + storedLimit)

/-- Octets as compressed data, with its header and its check. -/
def store (data : ByteArray) : ByteArray :=
  storeBlocks data ((data.size - 1) / storedLimit) 0 ⟨#[0x78, 0x01]⟩
    ++ ⟨(Octets.write32 (Checksum.adler32 data).toNat).toArray⟩

end Lookout.Deflate
