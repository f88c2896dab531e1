import Lookout.Time.Timeline
/-!
# The clock of the machine

The machine's clock never goes back; it is read from the moment it was started.
-/

namespace Lookout

/-- A clock that was started at a moment of the machine. -/
structure SystemClock where
  /-- The machine's reading at the start, in nanoseconds. -/
  origin : Nat

namespace SystemClock

/-- Start a clock. -/
def start : BaseIO SystemClock := return ⟨← IO.monoNanosNow⟩

/-- The span since the start. -/
def elapsed (c : SystemClock) : BaseIO Span := return ⟨(← IO.monoNanosNow) - c.origin⟩

/-- The present reading in milliseconds. -/
def now (c : SystemClock) : BaseIO Float := return Timeline.ofSpan (← c.elapsed)

/-- Wait for a span. -/
def sleep (d : Span) : BaseIO Unit := IO.sleep ((d.nanos + 999999) / 1000000).toUInt32

end SystemClock

end Lookout
