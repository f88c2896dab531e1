import Lookout.Poll.Channel
/-!
# The health of channels

The store knows for each channel whether its last poll was answered.  Storing the value that a
channel has already changes nothing; any other value is announced to all subscribers, since each
announcement makes the display of the list of channels anew.

Entries are kept in the order of the channels' names.
-/

namespace Lookout

/-- Whether a channel answers. -/
inductive ChannelHealth where
  /-- It was never polled. -/
  | unknown
  /-- It answered. -/
  | online
  /-- It did not answer. -/
  | offline
  deriving DecidableEq, Repr, Inhabited

namespace ChannelHealth

/-- The icon in the list of channels. -/
def icon : ChannelHealth → String
  | .unknown => "mdi mdi-webcam"
  | .online => "mdi mdi-webcam"
  | .offline => "mdi mdi-webcam-off"

/-- The name in messages. -/
def name : ChannelHealth → String
  | .unknown => "Unknown"
  | .online => "Online"
  | .offline => "Offline"

end ChannelHealth

/-- An announcement. -/
structure HealthChange where
  /-- The channel. -/
  channel : ChannelId
  /-- What it had. -/
  previous : ChannelHealth
  /-- What it has now. -/
  current : ChannelHealth
  deriving DecidableEq, Repr

/-- Someone who is told about changes. -/
structure Subscriber where
  /-- Its number. -/
  id : Nat
  /-- It still listens. -/
  isOpen : Bool := true
  /-- What it was told and has not yet taken, in order. -/
  inbox : List HealthChange := []
  deriving DecidableEq, Repr

/-- Tell a subscriber. -/
def Subscriber.deliver (s : Subscriber) (change : HealthChange) : Subscriber :=
  { s with inbox := s.inbox ++ [change] }

/-- The health of all channels that are known. -/
structure HealthStore where
  /-- The channels in the order of their names, each with its health. -/
  entries : List (ChannelId × ChannelHealth) := []
  /-- Who is told about changes. -/
  subscribers : List Subscriber := []
  /-- The number of the next subscriber. -/
  nextId : Nat := 0
  deriving DecidableEq, Repr

namespace HealthStore

/-- The entry of a channel, if there is one. -/
def lookup? (c : ChannelId) : List (ChannelId × ChannelHealth) → Option ChannelHealth
  | [] => none
  | (d, h) :: rest => if d = c then some h else lookup? c rest

/-- Put an entry in its place; one that the channel had is replaced. -/
def insert (c : ChannelId) (h : ChannelHealth) :
    List (ChannelId × ChannelHealth) → List (ChannelId × ChannelHealth)
  | [] => [(c, h)]
  | (d, g) :: rest =>
    if c = d then (c, h) :: rest
    else if c.path < d.path then (c, h) :: (d, g) :: rest
    else (d, g) :: insert c h rest

/-- The health of a channel; unknown if the channel is. -/
def get (s : HealthStore) (c : ChannelId) : ChannelHealth := (lookup? c s.entries).getD .unknown

/-- Make a channel known, without telling anyone. -/
def register (s : HealthStore) (c : ChannelId) : HealthStore :=
  match lookup? c s.entries with
  | some _ => s
  | none => { s with entries := insert c .unknown s.entries }

/-- Store the health of a channel.  If it is another one than before, all that still listen are
told, and those that do not are dropped. -/
def set (s : HealthStore) (c : ChannelId) (h : ChannelHealth) : Bool × HealthStore :=
  let previous := s.get c
  if previous = h then (false, s)
  else
    let listening := s.subscribers.filter (·.isOpen)
    (true, { s with
      entries := insert c h s.entries
      subscribers := listening.map (·.deliver ⟨c, previous, h⟩) })

/-- Be told about changes from now on. -/
def subscribe (s : HealthStore) : Nat × HealthStore :=
  (s.nextId, { s with subscribers := s.subscribers ++ [{ id := s.nextId }], nextId := s.nextId + 1 })

/-- Stop listening. -/
def unsubscribe (s : HealthStore) (id : Nat) : HealthStore :=
  { s with subscribers := s.subscribers.map fun u => if u.id = id then { u with isOpen := false } else u }

/-- What a subscriber was told. -/
def inbox (s : HealthStore) (id : Nat) : List HealthChange :=
  match s.subscribers.find? (·.id == id) with
  | some u => u.inbox
  | none => []

/-- Take what a subscriber was told. -/
def receive (s : HealthStore) (id : Nat) : List HealthChange × HealthStore :=
  (s.inbox id, { s with
    subscribers := s.subscribers.map fun u => if u.id = id then { u with inbox := [] } else u })

/-- All channels that are known, in the order of their names. -/
def snapshot (s : HealthStore) : List (ChannelId × ChannelHealth) := s.entries

end HealthStore

end Lookout
