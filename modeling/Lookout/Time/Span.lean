import Lookout.Decimal.Binary
/-!
# Spans of time

A span is a whole number of nanoseconds.  Spans are what a clock is asked to wait for and what
delays and timeouts are measured in; points on a timeline are another matter (`Time.Timeline`).
-/

namespace Lookout

/-- A length of time in whole nanoseconds. -/
structure Span where
  /-- The length in nanoseconds. -/
  nanos : Nat
  deriving DecidableEq, Repr, Inhabited

namespace Span

/-- The span of `n` milliseconds. -/
def ofMillis (n : Nat) : Span := ⟨n * 1000000⟩

/-- The span of `n` microseconds. -/
def ofMicros (n : Nat) : Span := ⟨n * 1000⟩

/-- Whole milliseconds in a span, the rest dropped. -/
def millis (s : Span) : Nat := s.nanos / 1000000

/-- Whole microseconds in a span, the rest dropped. -/
def micros (s : Span) : Nat := s.nanos / 1000

/-- True of the empty span alone. -/
def isZero (s : Span) : Bool := s.nanos == 0

/-- The span in seconds: whole seconds and the remaining fraction are converted on their own and
then added. -/
def seconds (s : Span) : Float :=
  Float.ofNat (s.nanos / 1000000000) + Float.ofNat (s.nanos % 1000000000) / 1e9

/-- The span of `x` seconds, to the nearest nanosecond, a half to the even one.  A negative number
of seconds and a number that is not finite give the empty span. -/
def ofSeconds (x : Float) : Span :=
  match Decimal.read x with
  | .finite b => if b.negative then ⟨0⟩ else ⟨b.roundTimes 1000000000⟩
  | _ => ⟨0⟩

end Span

end Lookout
