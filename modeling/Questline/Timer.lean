/-! Stopwatches. Times are milliseconds on the clock that all scripts share. -/
namespace Questline

/-- A stopwatch adds up the time it has been running since it was last cleared. -/
structure Timer where
  startedAt : Option Nat := none
  accumulated : Nat := 0
deriving Repr, DecidableEq

namespace Timer

def fresh : Timer := {}

def isRunning (t : Timer) : Bool := t.startedAt.isSome

/-- Starting a running timer changes nothing. -/
def start (t : Timer) (now : Nat) : Timer :=
  match t.startedAt with
  | none => { t with startedAt := some now }
  | some _ => t

def elapsed (t : Timer) (now : Nat) : Nat :=
  match t.startedAt with
  | some since => t.accumulated + (now - since)
  | none => t.accumulated

def stop (t : Timer) (now : Nat) : Timer := { startedAt := none, accumulated := t.elapsed now }

/-- Clearing also stops the timer. -/
def clear (_ : Timer) : Timer := fresh

def seconds (t : Timer) (now : Nat) : Nat := t.elapsed now / 1000

end Timer

end Questline
