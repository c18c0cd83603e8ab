import Questline.Matcher
import Questline.Stream

/-! The matches that a script has registered and not waited for yet, and the subscription that
collects game output for them. -/
namespace Questline

structure Watch where
  pending : List PendingMatch := []
  subscription : Option Nat := none

namespace Watch

def empty : Watch := {}

/-- Registers a match. The first one opens the subscription, so that no line is lost before the wait
begins. -/
def register (w : Watch) (stream : Stream) (p : PendingMatch) : Watch × Stream :=
  match w.subscription with
  | some _ => ({ w with pending := w.pending ++ [p] }, stream)
  | none =>
    let (id, stream) := stream.subscribe
    ({ pending := w.pending ++ [p], subscription := some id }, stream)

def clear (w : Watch) (stream : Stream) : Watch × Stream :=
  (empty, w.subscription.elim stream stream.unsubscribe)

/-- The matches and their subscription, where there is something to wait for. -/
def ready? (w : Watch) : Option (Nat × List PendingMatch) :=
  match w.pending, w.subscription with
  | p :: pending, some id => some (id, p :: pending)
  | _, _ => none

end Watch

end Questline
