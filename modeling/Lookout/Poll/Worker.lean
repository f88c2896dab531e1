import Lookout.Poll.Poller
import Lookout.Time.Moment
/-!
# The worker behind a poller

A worker makes the requests of a poller: it sleeps until one is due, fetches the picture, and hands
the outcome back.  Meanwhile the selection may be changed from anywhere.

The poller and its schedule are shared under a lock, so everything that happens between taking the
lock and releasing it is one step.  A run is an interleaving of the steps of the worker (`check`,
`finish`, `wake`) with those of the controls (`select`, `deselect`, `subscribe`, `requestShutdown`,
`notify`).

A step of the controls that panics while it holds the lock leaves the shared state unusable: from
then on every use of it fails, and the worker exits when it tries next.
-/

namespace Lookout

/-- A request that is to be made at a moment. -/
structure Scheduled where
  /-- The request. -/
  ticket : Ticket
  /-- When it is due. -/
  due : Moment
  deriving DecidableEq, Repr

/-- Where the worker is. -/
inductive Phase where
  /-- About to look at the schedule. -/
  | checking
  /-- Asleep until it is woken, or until a moment at the latest. -/
  | asleep (until_ : Option Moment)
  /-- Fetching the picture for a request. -/
  | fetching (ticket : Ticket)
  /-- Done. -/
  | exited
  /-- Done, since fetching panicked. -/
  | crashed
  deriving DecidableEq, Repr

/-- Why a worker cannot do what it is asked to. -/
inductive WorkerError where
  /-- The shared state is unusable. -/
  | poisoned
  /-- Fetching panicked. -/
  | panicked
  deriving DecidableEq, Repr

/-- The wording of an error. -/
def WorkerError.message : WorkerError → String
  | .poisoned => "channel poller state poisoned"
  | .panicked => "channel poller worker panicked"

/-- A worker and what it shares with the controls. -/
structure Worker (σ : Type) where
  /-- The poller. -/
  poller : Poller σ
  /-- The request that is to be made next. -/
  next : Option Scheduled := none
  /-- The worker is to exit. -/
  shutdown : Bool := false
  /-- The shared state is unusable. -/
  poisoned : Bool := false
  /-- Where the worker is. -/
  phase : Phase := .checking

namespace Worker

variable {σ : Type}

/-- A worker that has just been started. -/
def spawn (poller : Poller σ) : Worker σ := { poller }

/-! ## Steps of the controls -/

/-- Wake the worker if it sleeps. -/
def notify (w : Worker σ) : Worker σ :=
  match w.phase with
  | .asleep _ => { w with phase := .checking }
  | _ => w

/-- Use the shared state. -/
def locked {α : Type} (w : Worker σ) (use : Worker σ → α) : Except WorkerError α :=
  if w.poisoned then .error .poisoned else .ok (use w)

/-- Select a channel; its first request is due at once. -/
def select (w : Worker σ) (c : ChannelId) (now : Moment) : Except WorkerError (Ticket × Worker σ) :=
  w.locked fun w =>
    let (ticket, poller) := w.poller.select c
    (ticket, { w with poller, next := some ⟨ticket, now⟩ }.notify)

/-- Select nothing. -/
def deselect (w : Worker σ) : Except WorkerError (Worker σ) :=
  w.locked fun w => { w with poller := w.poller.deselect, next := none }.notify

/-- Be told about changes of health. -/
def subscribe (w : Worker σ) : Except WorkerError (Nat × Worker σ) :=
  w.locked fun w =>
    let (id, health) := w.poller.health.subscribe
    (id, { w with poller := { w.poller with health } })

/-- Become aware of a channel. -/
def register (w : Worker σ) (c : ChannelId) : Worker σ := { w with poller := w.poller.register c }

/-- The health of a channel. -/
def health (w : Worker σ) (c : ChannelId) : Except WorkerError ChannelHealth :=
  w.locked fun w => w.poller.health.get c

/-- The health of all channels. -/
def healthSnapshot (w : Worker σ) : Except WorkerError (List (ChannelId × ChannelHealth)) :=
  w.locked fun w => w.poller.health.snapshot

/-- Panic while holding the lock. -/
def poison (w : Worker σ) : Worker σ := { w with poisoned := true }

/-- Ask the worker to exit; it is woken only by the step after this one. -/
def requestShutdown (w : Worker σ) : Worker σ :=
  if w.poisoned then w else { w with shutdown := true }

/-- What someone who waits for the worker to be done is told, once it is. -/
def join? (w : Worker σ) : Option (Except WorkerError Unit) :=
  match w.phase with
  | .exited => some (.ok ())
  | .crashed => some (.error .panicked)
  | _ => none

/-! ## Steps of the worker -/

/-- Wake up, be it that the time has come or for no reason. -/
def wake (w : Worker σ) : Worker σ := w.notify

/-- Look at the schedule: exit, go to sleep, or begin a request. -/
def check (w : Worker σ) (now : Moment) : Worker σ :=
  match w.phase with
  | .checking =>
    if w.poisoned || w.shutdown then { w with phase := .exited }
    else match w.next with
      | none => { w with phase := .asleep none }
      | some s =>
        if now < s.due then { w with phase := .asleep (some s.due) }
        else
          let (goes, poller) := w.poller.begin s.ticket
          { w with poller, next := none, phase := if goes then .fetching s.ticket else .asleep none }
  | _ => w

/-- The channel that is being fetched. -/
def fetching? (w : Worker σ) : Option ChannelId :=
  match w.phase with
  | .fetching ticket => some ticket.channel
  | _ => none

/-- Sleep until the moment that a sleeping worker waits for, and look at the schedule then. -/
def sleepOn (w : Worker σ) (now : Moment) : Worker σ × Moment :=
  match w.phase with
  | .asleep (some due) =>
    let now := if now < due then due else now
    (w.wake.check now, now)
  | _ => (w, now)

/-- Fetching panics. -/
def crash (w : Worker σ) : Worker σ :=
  match w.phase with
  | .fetching _ => { w with phase := .crashed }
  | _ => w

variable [Surface σ]

/-- Hand back the outcome of a request.  If it counts and nothing else is scheduled, the next
request is. -/
def finish (w : Worker σ) (outcome : Except ClientError (Frame Float)) (now : Moment) : Worker σ :=
  match w.phase with
  | .fetching ticket =>
    if w.poisoned then { w with phase := .exited }
    else
      let (completion, poller) := w.poller.complete ticket outcome
      let next := match completion with
        | .applied _ delay _ => w.next <|> some ⟨ticket, now.after delay⟩
        | .stale => w.next
      { w with poller, next, phase := .checking }
  | _ => w

end Worker

end Lookout
