import Lookout.Time.Span
/-!
# When to poll again

A channel that answers is polled at a steady rate; one that does not is left alone for a fixed time.
-/

namespace Lookout

/-- How often a channel is polled. -/
structure PollPolicy where
  /-- Polls in a second while the channel answers. -/
  rate : Nat := 5
  /-- The delay after a failed poll. -/
  backoff : Span := .ofMillis 10000
  deriving DecidableEq, Repr

namespace PollPolicy

/-- The delay after a poll that was answered: a second over the rate, in whole microseconds.  A rate
of zero counts as one. -/
def successDelay (p : PollPolicy) : Span := .ofMicros (1000000 / max p.rate 1)

/-- The delay after a failed poll. -/
def failureDelay (p : PollPolicy) : Span := p.backoff

end PollPolicy

end Lookout
