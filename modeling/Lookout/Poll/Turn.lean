import Lookout.Poll.Fetcher
import Lookout.Poll.Worker
/-!
# A worker left to itself

While nobody touches the controls, a worker goes through its steps in the only possible order: it
looks at the schedule, sleeps until its request is due, and makes the request.
-/

namespace Lookout.Worker

variable {σ ω : Type} [Surface σ] [Clock ω Float] [Net.Network ω]

/-- The span from one moment to another, or none if that was before. -/
def spanUntil (now due : Moment) : Span := ⟨due.nanos - now.nanos⟩

/-- The next step of a worker, and the moment when it is done.  A worker that sleeps with no
request to make, or that is done, stays as it is. -/
def turn (f : Fetcher) (now : Moment) (w : Worker σ) (world : ω) :
    Worker σ × Fetcher × Moment × ω :=
  match w.phase with
  | .checking => (w.check now, f, now, world)
  | .asleep (some due) =>
    if now < due then (w.wake, f, due, Clock.sleep (spanUntil now due) world)
    else (w.wake, f, now, world)
  | .fetching ticket =>
    let (outcome, f, world) := f.fetch ticket.channel world
    (w.finish outcome now, f, now, world)
  | _ => (w, f, now, world)

end Lookout.Worker
