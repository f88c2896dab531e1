import Lookout.Net.Client
import Lookout.Time.Clock
/-!
# Asking the outside

A run of a program that needs the outside (the time, a pause, an answer from a server) is a pure
function of what the outside answers.  A dialogue holds the answers that are known.  A run that
needs one more than those leaves its question behind; once that is answered, the run is made again
from its beginning and comes one question further.
-/

namespace Lookout

/-- What a run needs from the outside. -/
inductive Dialogue.Question where
  /-- The time. -/
  | time
  /-- A pause. -/
  | pause (d : Span)
  /-- The answer to a request. -/
  | exchange (r : Net.Request)

/-- What the outside gives. -/
inductive Dialogue.Reply where
  /-- The time, in milliseconds. -/
  | time (now : Float)
  /-- The pause is over. -/
  | paused
  /-- A server's answer. -/
  | exchanged (answer : Except Net.TransportFault Net.Response)

/-- The answers that are known, and the question that is not answered. -/
structure Dialogue where
  /-- The answers that were not yet used, in order. -/
  replies : List Dialogue.Reply
  /-- The first question that had no answer. -/
  question : Option Dialogue.Question := none

namespace Dialogue

/-- Ask a question; `read` takes the answers that fit it.  Without an answer the question is left
behind, and the run goes on with `standIn`. -/
def ask {α : Type} (q : Question) (read : Reply → Option α) (standIn : α) (d : Dialogue) :
    α × Dialogue :=
  match d.question, d.replies with
  | none, reply :: replies =>
    match read reply with
    | some a => (a, ⟨replies, none⟩)
    | none => (standIn, ⟨[], some q⟩)
  | none, [] => (standIn, ⟨[], some q⟩)
  | some first, _ => (standIn, ⟨[], some first⟩)

/-- The time that an answer gives. -/
def readTime : Reply → Option Float
  | .time now => some now
  | _ => none

/-- The end of a pause. -/
def readPause : Reply → Option Unit
  | .paused => some ()
  | _ => none

/-- A server's answer. -/
def readExchange : Reply → Option (Except Net.TransportFault Net.Response)
  | .exchanged answer => some answer
  | _ => none

instance : Clock Dialogue Float where
  now := ask .time readTime 0.0
  sleep d := fun w => (ask (.pause d) readPause () w).2

instance : Net.Network Dialogue where
  exchange r := ask (.exchange r) readExchange (.error .refused)

end Dialogue

end Lookout
