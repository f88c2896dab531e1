import Lookout.Picture.Png.Writer
/-!
# Reading PNG

The pixels of a file are compressed rows; each row is filtered by what stands beside it and above
it.  A file may give its pixels in seven passes, each a coarse picture of its own.  Colours may be
grey values, colours of their own or entries of a palette, of 1 to 16 bits.
-/

namespace Lookout.Png

open Octets

/-- What the header says. -/
structure Header where
  /-- The width. -/
  width : Nat
  /-- The height. -/
  height : Nat
  /-- Bits in a channel. -/
  depth : Nat
  /-- What the channels mean. -/
  colour : Nat
  /-- The pixels come in seven passes. -/
  interlaced : Bool

/-- The depths that a colour type allows. -/
def depthsOf : Nat → List Nat
  | 0 => [1, 2, 4, 8, 16]
  | 2 => [8, 16]
  | 3 => [1, 2, 4, 8]
  | 4 => [8, 16]
  | 6 => [8, 16]
  | _ => []

/-- How many channels a colour type has. -/
def channelsOf : Nat → Nat
  | 2 => 3
  | 4 => 2
  | 6 => 4
  | _ => 1

/-- Read the header. -/
def readHeader? (data : ByteArray) : Option Header := do
  if data.size ≠ 13 then none
  let width ← nat32? data 0
  let height ← nat32? data 4
  let depth ← natAt? data 8 1
  let colour ← natAt? data 9 1
  let method ← nat16? data 10
  let interlace ← natAt? data 12 1
  if width = 0 ∨ height = 0 ∨ 0x80000000 ≤ width ∨ 0x80000000 ≤ height then none
  if method ≠ 0 ∨ 1 < interlace ∨ !(depthsOf colour).contains depth then none
  return ⟨width, height, depth, colour, interlace = 1⟩

/-- The chunks of a file from a position on, up to its end.  A chunk whose check fails is dropped
if the file can be read without it; its tag then starts with a small letter. -/
def readChunks? (data : ByteArray) : Nat → Nat → Option (List (String × ByteArray))
  | 0, _ => none
  | fuel + 1, pos => do
    let length ← nat32? data pos
    let body ← slice? data (pos + 4) (pos + 8 + length)
    let check ← nat32? data (pos + 8 + length)
    let tag := String.ofList ((body.extract 0 4).toList.map fun o => Char.ofNat o.toNat)
    let sound := (Checksum.crc32 body).toNat = check
    let optional := (tag.toList.head?.map Char.isLower).getD false
    if !sound && !optional then none
    else if tag = "IEND" then return []
    else
      let rest ← readChunks? data fuel (pos + 12 + length)
      return if sound then (tag, body.extract 4 body.size) :: rest else rest

/-- The data of the chunks with a tag, joined. -/
def joined (tag : String) (chunks : List (String × ByteArray)) : ByteArray :=
  (chunks.filter (·.1 == tag)).foldl (fun out c => out ++ c.2) .empty

/-! ## Rows -/

/-- The neighbour that is closest to left plus above minus both. -/
def paeth (left above corner : Nat) : Nat :=
  let guess : Int := left + above - corner
  let fromLeft := (guess - left).natAbs
  let fromAbove := (guess - above).natAbs
  let fromCorner := (guess - corner).natAbs
  if fromLeft ≤ fromAbove ∧ fromLeft ≤ fromCorner then left
  else if fromAbove ≤ fromCorner then above
  else corner

/-- What a filter expects, given the neighbours. -/
def expected (filter left above corner : Nat) : Nat :=
  match filter with
  | 0 => 0
  | 1 => left
  | 2 => above
  | 3 => (left + above) / 2
  | _ => paeth left above corner

/-- Undo the filter of a row.  `step` is the distance of neighbours in octets. -/
def unfilterRow (filter step : Nat) (above row : ByteArray) : ByteArray :=
  row.size.fold (fun i _ out =>
    let at_ (line : ByteArray) : Nat := if i < step then 0 else (octetAt line (i - step)).toNat
    let up := if i < above.size then (octetAt above i).toNat else 0
    out.push (octetAt row i + (expected filter (at_ out) up (if above.isEmpty then 0 else at_ above)).toUInt8))
    (ByteArray.emptyWithCapacity row.size)

/-- Undo the filters of `count` rows from a position on; the rows and the position after them. -/
def unfilterRows? (data : ByteArray) (step stride : Nat) :
    Nat → Nat → ByteArray → Array ByteArray → Option (Array ByteArray × Nat)
  | 0, pos, _, rows => some (rows, pos)
  | count + 1, pos, above, rows => do
    let filter ← natAt? data pos 1
    if 4 < filter then none
    let row ← slice? data (pos + 1) (pos + 1 + stride)
    let row := unfilterRow filter step above row
    unfilterRows? data step stride count (pos + 1 + stride) row (rows.push row)

/-! ## Passes -/

/-- A coarse picture: where it starts, and how far its pixels are apart. -/
structure Pass where
  /-- The first column. -/
  left : Nat
  /-- The first row. -/
  top : Nat
  /-- The distance of columns. -/
  across : Nat
  /-- The distance of rows. -/
  down : Nat

/-- The passes of a file. -/
def passesOf (interlaced : Bool) : List Pass :=
  if interlaced then
    [⟨0, 0, 8, 8⟩, ⟨4, 0, 8, 8⟩, ⟨0, 4, 4, 8⟩, ⟨2, 0, 4, 4⟩, ⟨0, 2, 2, 4⟩, ⟨1, 0, 2, 2⟩, ⟨0, 1, 1, 2⟩]
  else [⟨0, 0, 1, 1⟩]

/-- How many of `n` places, `distance` apart, there are from `start` on. -/
def placesFrom (start distance n : Nat) : Nat := (n - start + distance - 1) / distance

/-- The rows of every pass. -/
def readPasses? (h : Header) (data : ByteArray) :
    List Pass → Nat → Option (List (Pass × Array ByteArray))
  | [], _ => some []
  | p :: ps, pos => do
    let width := placesFrom p.left p.across h.width
    let height := placesFrom p.top p.down h.height
    let bits := h.depth * channelsOf h.colour
    let (rows, pos) ← if width = 0 then some (#[], pos)
      else unfilterRows? data ((bits + 7) / 8) ((width * bits + 7) / 8) height pos .empty #[]
    return (p, rows) :: (← readPasses? h data ps pos)

/-- The pass holds the pixel in a column and a row. -/
def Pass.holds (p : Pass) (x y : Nat) : Bool :=
  p.left ≤ x && p.top ≤ y && (x - p.left) % p.across == 0 && (y - p.top) % p.down == 0

/-! ## Pixels -/

/-- The number of `depth` bits at position `i` of a row, the highest bit first. -/
def sampleAt (row : ByteArray) (depth i : Nat) : Nat :=
  if depth = 16 then (octetAt row (2 * i)).toNat * 256 + (octetAt row (2 * i + 1)).toNat
  else if depth = 8 then (octetAt row i).toNat
  else
    let perOctet := 8 / depth
    (octetAt row (i / perOctet)).toNat >>> (8 - depth - (i % perOctet) * depth) % (1 <<< depth)

/-- A number of `depth` bits on the scale of eight bits. -/
def toEight (depth n : Nat) : UInt8 :=
  if depth = 16 then ((n + 128) / 257).toUInt8 else (n * 255 / (1 <<< depth - 1)).toUInt8

/-- The entry of a palette. -/
def paletteAt (palette opacity : ByteArray) (i : Nat) : Rgba :=
  ⟨octetAt palette (3 * i), octetAt palette (3 * i + 1), octetAt palette (3 * i + 2),
    if i < opacity.size then octetAt opacity i else 255⟩

/-- The pixel at a position of a row.  `transparency` names the colour that is transparent, or gives
the opacities of the palette. -/
def pixelAt (h : Header) (palette transparency row : ByteArray) (i : Nat) : Rgba :=
  let n := channelsOf h.colour
  let sample (k : Nat) : Nat := sampleAt row h.depth (i * n + k)
  let value (k : Nat) : UInt8 := toEight h.depth (sample k)
  let named (k : Nat) : Bool := nat16? transparency (2 * k) = some (sample k)
  match h.colour with
  | 0 => ⟨value 0, value 0, value 0, if named 0 then 0 else 255⟩
  | 2 => ⟨value 0, value 1, value 2, if named 0 && named 1 && named 2 then 0 else 255⟩
  | 3 => paletteAt palette transparency (sample 0)
  | 4 => ⟨value 0, value 0, value 0, value 1⟩
  | _ => ⟨value 0, value 1, value 2, value 3⟩

/-- Read a file. -/
def decode? (data : ByteArray) : Option (Raster Rgba) := do
  if data.extract 0 8 != mark then none
  match ← readChunks? data (data.size + 1) 8 with
  | ("IHDR", first) :: chunks =>
    let h ← readHeader? first
    let palette := joined "PLTE" chunks
    let transparency := joined "tRNS" chunks
    if h.colour = 3 ∧ palette.isEmpty then none
    let passes ← readPasses? h (← Deflate.inflate? (joined "IDAT" chunks)) (passesOf h.interlaced) 0
    return Raster.build h.width h.height fun x y =>
      match passes.find? fun (p, _) => p.holds x y with
      | some (p, rows) =>
        pixelAt h palette transparency (rows[(y - p.top) / p.down]?.getD .empty)
          ((x - p.left) / p.across)
      | none => {}
  | _ => none

end Lookout.Png
