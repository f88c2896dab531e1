import Lookout.Time.Timeline
/-!
# Clocks

A clock is read and waited on.  Both are stated as pure operations on a value of the clock's type,
so a run of any program that uses a clock is a function of the clock it starts with.  A reading
may change the clock (a recorded sequence of readings is a clock as well).

`ManualClock` is the clock of simulated time: it moves only when told to, and a sleep moves it by
exactly the requested span and is remembered.
-/

namespace Lookout

/-- What can be done with a clock whose readings are points of `τ`. -/
class Clock (κ : Type) (τ : outParam Type) where
  /-- The present reading. -/
  now : κ → τ × κ
  /-- Wait for a span. -/
  sleep : Span → κ → κ

/-- A clock that moves only when it is advanced or slept on. -/
structure ManualClock (τ : Type) where
  /-- The present reading. -/
  now : τ
  /-- Every span slept so far, in order. -/
  sleeps : Array Span := #[]

namespace ManualClock

variable {τ : Type} [Timeline τ]

/-- A manual clock that has just been started. -/
def start : ManualClock τ where
  now := 0

/-- Let time pass without anyone sleeping. -/
def advance (c : ManualClock τ) (d : Span) : ManualClock τ :=
  { c with now := c.now + Timeline.ofSpan d }

/-- Sleep: the span is remembered and time passes by it. -/
def sleep (c : ManualClock τ) (d : Span) : ManualClock τ :=
  { c.advance d with sleeps := c.sleeps.push d }

instance : Clock (ManualClock τ) τ where
  now c := (c.now, c)
  sleep d c := c.sleep d

end ManualClock

end Lookout
