import Lookout.Capture.Frame
import Lookout.Detection.Service
import Lookout.Picture.Codec
import Lookout.Poll.Channel
import Lookout.Time.Clock
/-!
# Fetching a channel's picture
-/

namespace Lookout

/-- Gets the pictures of channels below a base address. -/
structure Fetcher where
  /-- The base address. -/
  base : String
  /-- How long a request may take. -/
  timeout : Span
  /-- Reads the pictures. -/
  decode : Picture.Reader := Picture.read
  /-- How many pictures were got. -/
  fetched : Nat := 0

namespace Fetcher

/-- Where a channel's picture is. -/
def address (f : Fetcher) (c : ChannelId) : String := c.address f.base

/-- The most octets of a picture. -/
def pictureLimit : Nat := 10 * 1024 * 1024

/-- The picture in an answer from an address. -/
def readPicture (decode : Picture.Reader) (address : String) (r : Net.Response) :
    Except ClientError (Raster Rgb) :=
  if r.isSuccess then
    match r.body.take pictureLimit with
    | none => .error (.transport s!"read {address}: {Net.cutMessage}")
    | some octets =>
      (decode octets).mapError fun reason => .malformedBody s!"decode {address}: {reason}"
  else .error (.status r.status)

variable {τ ω : Type} [Timeline τ] [Clock ω τ] [Net.Network ω]

/-- The frame of a picture that was got. -/
def toFrame (f : Fetcher) (c : ChannelId) (picture : Raster Rgb) (now : τ) : Frame τ where
  picture := picture
  timestamp := now
  metadata := {
    presentedFrames := f.fetched + 1
    presentationTime := now
    mediaTime := Timeline.seconds now
    width := picture.width
    height := picture.height
    source := c.path }

/-- Get the picture of a channel. -/
def fetch (f : Fetcher) (c : ChannelId) (w : ω) : Except ClientError (Frame τ) × Fetcher × ω :=
  let address := f.address c
  match Net.get address (some f.timeout) w with
  | (.error failure, w) => (.error (.ofHttp failure), f, w)
  | (.ok response, w) =>
    match readPicture f.decode address response with
    | .error e => (.error e, f, w)
    | .ok picture =>
      let (now, w) := Clock.now w
      (.ok (f.toFrame c picture now), { f with fetched := f.fetched + 1 }, w)

end Fetcher

end Lookout
