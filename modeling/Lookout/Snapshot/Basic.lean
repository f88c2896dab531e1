import Lookout.Picture.Jpeg.Writer
import Lookout.Picture.Png.Writer
import Lookout.Picture.Resample
import Lookout.Snapshot.Format
/-!
# Snapshots

A snapshot of a frame is taken at the size of the display, so that the service sees exactly what
the boxes are drawn over.
-/

namespace Lookout

/-- A picture as it is sent to the service. -/
structure Snapshot where
  /-- The file. -/
  octets : ByteArray
  /-- Its format. -/
  format : SnapshotFormat
  /-- The width of the picture. -/
  width : Nat
  /-- The height of the picture. -/
  height : Nat

namespace Snapshot

/-- A picture as a file. -/
def write (r : Raster Rgb) : SnapshotFormat → Except EncodingError ByteArray
  | .png => .ok (Png.encode r)
  | .jpeg =>
    match Jpeg.encode? r with
    | some octets => .ok octets
    | none => .error (.tooLarge r.width r.height)

/-- Take a snapshot of a picture at a size. -/
def take (picture : Raster Rgb) (width height : Nat) (format : SnapshotFormat) :
    Except EncodingError Snapshot :=
  if width = 0 ∨ height = 0 ∨ picture.isEmpty then .error (.emptySurface width height)
  else do
    let octets ← write (picture.fitted width height) format
    return { octets, format, width, height }

/-- The media type. -/
def mediaType (s : Snapshot) : String := s.format.mediaType

end Snapshot

end Lookout
