import Lookout.Picture.Jpeg.Reader
import Lookout.Picture.Png.Reader
/-!
# Reading a picture file

The octets at the start of a file tell its format.

`Picture.decode` reads PNG files, and JPEG files of one or three colours that come in one pass.  There
are pictures in files that it does not read: JPEG files of four colours, those that get sharper pass
by pass, and other formats.  What takes pictures from elsewhere is therefore given a
`Picture.Reader`, and `Picture.read` is only the one that it has by default.
-/

namespace Lookout

/-- Why a file holds no picture. -/
inductive PictureFault where
  /-- It starts like no format that is known. -/
  | unknownFormat
  /-- It is a broken PNG file. -/
  | badPng
  /-- It is a broken JPEG file. -/
  | badJpeg
  deriving DecidableEq, Repr

/-- The wording of a fault. -/
def PictureFault.message : PictureFault → String
  | .unknownFormat => "The image format could not be determined"
  | .badPng => "Format error decoding Png: invalid or incomplete file"
  | .badJpeg => "Format error decoding Jpeg: invalid or incomplete file"

namespace Picture

/-- The octets that a JPEG file starts with. -/
def jpegMark : ByteArray := ⟨#[0xFF, 0xD8, 0xFF]⟩

/-- Read a file; opacities are dropped. -/
def decode (data : ByteArray) : Except PictureFault (Raster Rgb) :=
  if data.extract 0 8 == Png.mark then
    match Png.decode? data with
    | some r => .ok (r.map Rgba.colour)
    | none => .error .badPng
  else if data.extract 0 3 == jpegMark then
    match Jpeg.decode? data with
    | some r => .ok r
    | none => .error .badJpeg
  else .error .unknownFormat

/-- A way to read files: the picture in a file, or in words why there is none. -/
abbrev Reader := ByteArray → Except String (Raster Rgb)

/-- The reader of the formats that are known here. -/
def read : Reader := fun data => (decode data).mapError PictureFault.message

/-- The size of the picture in a file, by its header alone. -/
def size? (data : ByteArray) : Option (Nat × Nat) :=
  if data.extract 0 8 == Png.mark then do
    return (← Octets.nat32? data 16, ← Octets.nat32? data 20)
  else Jpeg.size? data

end Picture

end Lookout
