import Lookout.Net.Client
import Lookout.Time.Clock
/-!
# A simulated world

A simulated world has a clock that is set by hand, servers whose answers are prepared, and a count
of the prepared sources that were stopped.  Everything that sources and services do outside
themselves can be run in it.
-/

namespace Lookout.Simulation

/-- What a prepared server does with a connection. -/
inductive Reply where
  /-- It answers. -/
  | answer (response : Net.Response)
  /-- It reads the request and closes the connection. -/
  | drop

/-- A simulated world. -/
structure World (τ : Type) where
  /-- The clock. -/
  clock : ManualClock τ
  /-- What servers do with the next connections; after those they take none. -/
  replies : List Reply := []
  /-- The requests that reached a server. -/
  requests : Array Net.Request := #[]
  /-- How often a prepared source was stopped. -/
  sourceStops : Nat := 0

namespace World

variable {τ : Type} [Timeline τ]

/-- A world at its beginning. -/
def start (replies : List Reply) : World τ := { clock := .start, replies }

/-- Let time pass. -/
def advance (w : World τ) (d : Span) : World τ := { w with clock := w.clock.advance d }

/-- Send a request to the next prepared connection. -/
def exchange (r : Net.Request) (w : World τ) :
    Except Net.TransportFault Net.Response × World τ :=
  match w.replies with
  | [] => (.error .refused, w)
  | reply :: replies =>
    let w := { w with replies, requests := w.requests.push r }
    match reply with
    | .answer response => (.ok response, w)
    | .drop => (.error .dropped, w)

instance : Clock (World τ) τ where
  now w := (w.clock.now, w)
  sleep d w := { w with clock := w.clock.sleep d }

instance : Net.Network (World τ) where
  exchange := exchange

end World

end Lookout.Simulation
