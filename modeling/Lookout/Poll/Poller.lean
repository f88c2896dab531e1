import Lookout.Detection.Service
import Lookout.Display.Renderer
import Lookout.Poll.Health
import Lookout.Poll.Policy
/-!
# Polling the selected channel

At most one channel is selected.  Its picture is asked for again and again: at a steady rate while
the channel answers, and after a fixed delay when it does not.

Every selection has a number of its own.  A request carries the number it was made under, and its
outcome counts only while that number is in force: what comes back for a channel that is no longer
selected, or for an earlier selection of the same channel, is dropped.
-/

namespace Lookout

/-- What the poller is doing. -/
inductive PollState where
  /-- Nothing is selected. -/
  | idle
  /-- A request is under way or about to be. -/
  | requesting
  /-- The channel answered. -/
  | healthy
  /-- The channel did not answer. -/
  | unhealthy
  deriving DecidableEq, Repr

/-- A request. -/
structure Ticket where
  /-- The channel it is for. -/
  channel : ChannelId
  /-- The number of the selection it was made under. -/
  generation : Nat
  deriving DecidableEq, Repr

/-- What became of the outcome of a request. -/
inductive Completion where
  /-- Nothing; the request is out of date. -/
  | stale
  /-- It was taken into account, and the channel is to be polled again after a delay. -/
  | applied (state : PollState) (delay : Span) (healthChanged : Bool)
  deriving DecidableEq, Repr

/-- The poller of a dashboard with a display of type `σ`. -/
structure Poller (σ : Type) where
  /-- When to poll again. -/
  policy : PollPolicy
  /-- The channel that is selected. -/
  selected : Option ChannelId := none
  /-- The number of the last selection. -/
  generation : Nat := 0
  /-- What is being done. -/
  state : PollState := .idle
  /-- The health of all channels. -/
  health : HealthStore := {}
  /-- Where pictures are shown. -/
  display : Renderer σ

namespace Poller

variable {σ : Type}

/-- Select a channel; its first request is given. -/
def select (p : Poller σ) (c : ChannelId) : Ticket × Poller σ :=
  let generation := p.generation + 1
  (⟨c, generation⟩, { p with
    generation
    health := p.health.register c
    display := p.display.resetClock
    selected := some c
    state := .requesting })

/-- Select nothing. -/
def deselect (p : Poller σ) : Poller σ :=
  { p with generation := p.generation + 1, selected := none, state := .idle }

/-- The request that would be made now. -/
def currentTicket (p : Poller σ) : Option Ticket := p.selected.map (⟨·, p.generation⟩)

/-- The request belongs to the selection that is in force. -/
def isCurrent (p : Poller σ) (t : Ticket) : Bool :=
  t.generation == p.generation && p.selected == some t.channel

/-- A request is about to go out; it is told whether it should. -/
def begin (p : Poller σ) (t : Ticket) : Bool × Poller σ :=
  if p.isCurrent t then (true, { p with state := .requesting }) else (false, p)

/-- Become aware of a channel. -/
def register (p : Poller σ) (c : ChannelId) : Poller σ := { p with health := p.health.register c }

/-- Store the health of a channel. -/
def setHealth (p : Poller σ) (c : ChannelId) (h : ChannelHealth) : Bool × Poller σ :=
  let (changed, health) := p.health.set c h
  (changed, { p with health })

variable [Surface σ]

/-- Take the outcome of a request into account. -/
def complete (p : Poller σ) (t : Ticket) (outcome : Except ClientError (Frame Float)) :
    Completion × Poller σ :=
  if p.isCurrent t then
    match outcome with
    | .ok frame =>
      let (changed, health) := p.health.set t.channel .online
      let (_, display) := p.display.renderPlain frame
      (.applied .healthy p.policy.successDelay changed, { p with health, display, state := .healthy })
    | .error _ =>
      let (changed, health) := p.health.set t.channel .offline
      (.applied .unhealthy p.policy.failureDelay changed,
        { p with health, display := p.display.placeholder, state := .unhealthy })
  else (.stale, p)

end Poller

end Lookout
