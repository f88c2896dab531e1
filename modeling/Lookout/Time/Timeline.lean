import Lookout.Time.Span
/-!
# Points in time

Frames are stamped with milliseconds on a monotonic timeline.  What the sources do with such
points (add a span, take a difference, compare) does not depend on how they are represented, so it
is stated once for a class of timelines.  Running programs use `Float`; reasoning about schedules
may use an exact representation instead.
-/

namespace Lookout

/-- A number type whose elements are read as milliseconds since some origin. -/
class Timeline (τ : Type) extends Zero τ, Add τ, Sub τ, LT τ, LE τ where
  /-- Points can be compared. -/
  decidableLT : DecidableLT τ
  /-- Points can be compared. -/
  decidableLE : DecidableLE τ
  /-- A span in milliseconds. -/
  ofSpan : Span → τ
  /-- The span of so many milliseconds, to the nearest nanosecond. -/
  toSpan : τ → Span
  /-- So many milliseconds in seconds. -/
  seconds : τ → τ

@[reducible] instance Timeline.instDecidableLT {τ : Type} [Timeline τ] : DecidableLT τ := Timeline.decidableLT

@[reducible] instance Timeline.instDecidableLE {τ : Type} [Timeline τ] : DecidableLE τ := Timeline.decidableLE

instance : Timeline Float where
  zero := 0.0
  decidableLT := inferInstance
  decidableLE := inferInstance
  ofSpan s := s.seconds * 1000.0
  toSpan ms := Span.ofSeconds (ms / 1000.0)
  seconds ms := ms / 1000.0

end Lookout
