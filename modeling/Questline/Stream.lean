/-! The feed of game output. Each subscription has a queue of its own, which holds every event
published since it was opened and not taken yet. -/
namespace Questline

inductive GameEvent where
  | line (text : String)
  | prompt
  | roomChange
deriving Repr, DecidableEq

structure Stream where
  /-- Subscriptions are numbered in the order in which they were opened. -/
  nextId : Nat := 0
  /-- The open subscriptions with the events still queued for them, oldest first. -/
  queues : List (Nat × List GameEvent) := []
deriving Repr

namespace Stream

def empty : Stream := {}

def subscribe (s : Stream) : Nat × Stream :=
  (s.nextId, { nextId := s.nextId + 1, queues := s.queues ++ [(s.nextId, [])] })

def unsubscribe (s : Stream) (id : Nat) : Stream :=
  { s with queues := s.queues.filter fun q => q.1 != id }

def publish (s : Stream) (event : GameEvent) : Stream :=
  { s with queues := s.queues.map fun q => (q.1, q.2 ++ [event]) }

/-- What is queued for a subscription; nothing for one that is not open. -/
def queued (s : Stream) (id : Nat) : List GameEvent :=
  ((s.queues.find? fun q => q.1 == id).map (·.2)).getD []

def isOpen (s : Stream) (id : Nat) : Bool := s.queues.any fun q => q.1 == id

def setQueue (s : Stream) (id : Nat) (events : List GameEvent) : Stream :=
  { s with queues := s.queues.map fun q => if q.1 == id then (q.1, events) else q }

def drain (s : Stream) (id : Nat) : List GameEvent × Stream := (s.queued id, s.setQueue id [])

/-- Takes the oldest event queued for a subscription. -/
def take? (s : Stream) (id : Nat) : Option (GameEvent × Stream) :=
  match s.queued id with
  | [] => none
  | event :: rest => some (event, s.setQueue id rest)

def subscriberCount (s : Stream) : Nat := s.queues.length

end Stream

end Questline
