import Lookout.Json.Writer
import Lookout.Picture.Raster
/-!
# Frames

A frame is a picture with the time it was taken and a record about it.  Times are points of any
timeline; the record can be written as JSON if they are binary64 numbers.
-/

namespace Lookout

/-- What is known about a frame besides its picture. -/
structure Metadata (τ : Type) where
  /-- How many frames its source had delivered with it. -/
  presentedFrames : Nat
  /-- When it was delivered, in milliseconds. -/
  presentationTime : τ
  /-- How far into the stream it is, in seconds. -/
  mediaTime : τ
  /-- The width of the picture. -/
  width : Nat
  /-- The height of the picture. -/
  height : Nat
  /-- The address or the channel it comes from. -/
  source : String

/-- The record as JSON. -/
def Metadata.json (m : Metadata Float) : String :=
  Json.object [
    ("presentedFrames", toString m.presentedFrames),
    ("presentationTime", Json.number m.presentationTime),
    ("mediaTime", Json.number m.mediaTime),
    ("width", toString m.width),
    ("height", toString m.height),
    ("source", Json.string m.source)]

/-- A picture from a source. -/
structure Frame (τ : Type) where
  /-- The picture. -/
  picture : Raster Rgb
  /-- When it was taken, in milliseconds. -/
  timestamp : τ
  /-- What else is known about it. -/
  metadata : Metadata τ

/-- The frame with some octets as its picture, if they are as many as it takes. -/
def Frame.ofOctets? {τ : Type} (width height : Nat) (octets : ByteArray) (timestamp : τ)
    (metadata : Metadata τ) : Option (Frame τ) :=
  (Raster.ofOctets? width height octets).map fun picture => { picture, timestamp, metadata }

end Lookout
