import Lookout.Text.Reading
import Lookout.Text.Lowercase
/-!
# Formats of a snapshot

A snapshot is the picture that is sent to the detection service.  Each format has a media type and
other names by which a configuration may ask for it.
-/

namespace Lookout

/-- The formats that the service accepts. -/
inductive SnapshotFormat where
  /-- Small and lossy. -/
  | jpeg
  /-- Exact. -/
  | png
  deriving DecidableEq, Repr, Inhabited

/-- Why a frame could not be made into a snapshot. -/
inductive EncodingError where
  /-- The frame or the surface has no pixels; the size asked for is given. -/
  | emptySurface (width height : Nat)
  /-- No format has that name. -/
  | unsupportedFormat (name : String)
  /-- The format has no room for a picture of that size. -/
  | tooLarge (width height : Nat)
  deriving DecidableEq, Repr

/-- The wording of a failure. -/
def EncodingError.message : EncodingError → String
  | .emptySurface width height => s!"cannot encode a {width}x{height} surface"
  | .unsupportedFormat name => s!"unsupported snapshot format '{name}'"
  | .tooLarge width height => s!"encoder failure: a picture of {width}x{height} does not fit the format"

namespace SnapshotFormat

/-- The media type. -/
def mediaType : SnapshotFormat → String
  | .jpeg => "image/jpeg"
  | .png => "image/png"

/-- Read the name of a format, without regard to case and to blanks around it. -/
def parse (text : String) : Except EncodingError SnapshotFormat :=
  let name := Text.lowercase (Text.trim text)
  if ["image/jpeg", "image/jpg", "jpeg", "jpg"].contains name then .ok .jpeg
  else if ["image/png", "png"].contains name then .ok .png
  else .error (.unsupportedFormat name)

end SnapshotFormat

end Lookout
