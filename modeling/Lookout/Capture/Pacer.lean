import Lookout.Time.Clock
/-!
# Keeping to a frame rate

A pacer knows when the next frame is due.  A frame that comes late moves all later ones; frames are
never made up for.
-/

namespace Lookout

/-- The time between two frames at a rate, in whole milliseconds: at least one, and none at all for
a rate of zero. -/
def frameInterval (rate : Nat) : Span := if rate = 0 then ⟨0⟩ else .ofMillis (max (1000 / rate) 1)

/-- Holds a source to its rate. -/
structure Pacer (τ : Type) where
  /-- The time between two frames. -/
  interval : Span
  /-- When the next frame is due; at once if there is no such time. -/
  nextDue : Option τ := none

namespace Pacer

variable {τ : Type} [Timeline τ]

/-- A pacer before its first frame. -/
def ofRate (rate : Nat) : Pacer τ := { interval := frameInterval rate }

/-- A frame at this time may be delivered. -/
def isDue (p : Pacer τ) (now : τ) : Bool :=
  match p.nextDue with
  | none => true
  | some due => decide (due ≤ now)

/-- A frame was delivered at this time. -/
def claim (p : Pacer τ) (now : τ) : Pacer τ :=
  { p with nextDue := some (now + Timeline.ofSpan p.interval) }

/-- Forget when the next frame is due. -/
def reset (p : Pacer τ) : Pacer τ := { p with nextDue := none }

variable {ω : Type} [Clock ω τ]

/-- Sleep until a time, if it is still to come. -/
def sleepUntil (due : τ) (w : ω) : ω :=
  let (now, w) := Clock.now w
  if now < due then Clock.sleep (Timeline.toSpan (due - now)) w else w

/-- Wait until the next frame is due and claim it; the time is given back. -/
def wait (p : Pacer τ) (w : ω) : τ × Pacer τ × ω :=
  let w := match p.nextDue with
    | some due => sleepUntil due w
    | none => w
  let (now, w) := Clock.now w
  (now, p.claim now, w)

end Pacer

end Lookout
