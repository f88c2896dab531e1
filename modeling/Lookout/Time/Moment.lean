import Lookout.Time.Span
/-!
# Moments

The schedule of the poller is kept in moments of a clock that never goes back.
-/

namespace Lookout

/-- A point in time, in nanoseconds since some origin. -/
structure Moment where
  /-- Nanoseconds since the origin. -/
  nanos : Nat
  deriving DecidableEq, Repr, Inhabited

namespace Moment

/-- The moment a span later. -/
def after (m : Moment) (d : Span) : Moment := ⟨m.nanos + d.nanos⟩

instance : LT Moment := ⟨fun a b => a.nanos < b.nanos⟩

instance : LE Moment := ⟨fun a b => a.nanos ≤ b.nanos⟩

instance : DecidableLT Moment := fun a b => inferInstanceAs (Decidable (a.nanos < b.nanos))

instance : DecidableLE Moment := fun a b => inferInstanceAs (Decidable (a.nanos ≤ b.nanos))

end Moment

end Lookout
