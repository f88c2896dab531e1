/-!
# The frame counter of one stream

A stream clock counts the frames shown since the stream began and estimates the frame rate.  It is
reset at every boundary between streams.  The first frame anchors the start, so its elapsed time
is zero and the estimate is zero.
-/

namespace Lookout

/-- Frames shown since a stream began, and when it began. -/
structure StreamClock where
  /-- The time stamp of the first frame, once there is one. -/
  startTime : Option Float := none
  /-- How many frames were counted. -/
  frameCount : Nat := 0

namespace StreamClock

/-- A stream clock before its first frame. -/
def reset : StreamClock := {}

/-- Frames per second after `frames` frames in `elapsed` seconds; zero where the quotient is not
finite or is negative. -/
def rate (frames : Nat) (elapsed : Float) : Float :=
  let fps := Float.ofNat frames / elapsed
  if fps.isFinite && fps ≥ 0.0 then fps else 0.0

/-- Count a frame stamped `now` (milliseconds) and estimate the frame rate. -/
def tick (c : StreamClock) (now : Float) : Float × StreamClock :=
  let start := c.startTime.getD now
  let frames := c.frameCount + 1
  (rate frames ((now - start) / 1000.0), { startTime := some start, frameCount := frames })

end StreamClock

end Lookout
