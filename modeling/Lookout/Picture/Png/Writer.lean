import Lookout.Picture.Png.Deflate
import Lookout.Picture.Raster
/-!
# Writing PNG

A file is a mark followed by chunks: the header, the pixels row by row, and the end.
-/

namespace Lookout.Png

/-- The mark at the start of a file. -/
def mark : ByteArray := ⟨#[0x89, 0x50, 0x4E, 0x47, 0x0D, 0x0A, 0x1A, 0x0A]⟩

/-- The tag of a chunk, as octets. -/
def tagOctets (tag : String) : ByteArray := tag.toUTF8

/-- A chunk. -/
def chunk (tag : String) (data : ByteArray) : ByteArray :=
  let body := tagOctets tag ++ data
  ⟨(Octets.write32 data.size).toArray⟩ ++ body
    ++ ⟨(Octets.write32 (Checksum.crc32 body).toNat).toArray⟩

/-- The colour type of pixels with the given number of channels. -/
def colourType (channels : Nat) : UInt8 := if channels = 4 then 6 else 2

variable {π : Type} [Pixel π]

/-- The header of a picture. -/
def header (r : Raster π) : ByteArray :=
  ⟨(Octets.write32 r.width ++ Octets.write32 r.height
    ++ [8, colourType (Pixel.channels π), 0, 0, 0]).toArray⟩

/-- The rows of a picture, each after the number of its filter, which is none. -/
def rows (r : Raster π) : ByteArray :=
  let octets := r.octets
  let stride := r.width * Pixel.channels π
  r.height.fold (fun y _ out => out.push 0 ++ octets.extract (y * stride) ((y + 1) * stride))
    (ByteArray.emptyWithCapacity (octets.size + r.height))

/-- A picture as a file. -/
def encode (r : Raster π) : ByteArray :=
  mark ++ chunk "IHDR" (header r) ++ chunk "IDAT" (Deflate.store (rows r)) ++ chunk "IEND" .empty

end Lookout.Png
