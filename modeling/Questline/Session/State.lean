import Questline.Console
import Questline.Engine
import Questline.GlobalsFile

/-! The state of a session: scripts on a console, the game output that is fed to them, and a
supervisor that starts scripts and sees to it that they end. Scripts, feeder and supervisor act
independently of each other; each act is one step, so that every interleaving is a list of acts. -/
namespace Questline

/-- Game output on its way to the scripts: the lines that have yet to be looked at, and the events
of the one looked at last that have yet to be published. -/
structure Feed where
  lines : List String := []
  isEnded : Bool := false
  events : List GameEvent := []

def Feed.isOver (f : Feed) : Bool := f.isEnded && f.lines.isEmpty && f.events.isEmpty

/-- What the supervisor does next. With each script in turn it looks at its state, takes note of
what it has announced, and parts with it if it was no longer active; then it waits for a request,
and tends to the scripts that wait in vain. -/
inductive Duty where
  | look (index : Nat)
  | listen (index : Nat) (isActive : Bool)
  | part (index : Nat)
  | receive (deadline : Nat)
  | tend
  | rest
deriving Repr, DecidableEq

structure Session where
  engine : Engine Console
  base : Option Path := none
  store : Option FileStore := none
  feed : Feed := {}
  duty : Duty := .look 0
  -- since when some script has been seen to wait in vain
  starvingSince : Option Nat := none
  hasFailed : Bool := false
  transcript : String := ""

namespace Session

variable (s : Session)

def console : Console := s.engine.world.client

def now : Nat := s.engine.world.now

def setConsole (console : Console) : Session :=
  { s with engine := { s.engine with world := { s.engine.world with client := console } } }

def setClock (now : Nat) : Session := { s with engine := s.engine.setClock now }

def write (effect : Effect) : Session :=
  { s with transcript := s.transcript ++ s.console.writes effect }

def transcribe : Session :=
  let s' := (s.engine.scripts.flatMap Script.log).foldl write s
  { s' with engine := s'.engine.clearLogs }

def keep : Session :=
  match s.store with
  | none => s
  | some store =>
    let (store, disk) := store.update s.console.disk s.engine.world.globals
    { s.setConsole { s.console with disk } with store := some store }

/-! ### The feeder -/

/-- Looks at the next line once the events of the last one have been published. -/
def readOn : Session :=
  match s.feed.events, s.feed.lines with
  | [], line :: lines =>
    let (events, console) := s.console.ingest s.now line
    { s.setConsole console with feed := { s.feed with events, lines } }
  | _, _ => s

def addLine (line : String) : Session :=
  { s with feed := { s.feed with lines := s.feed.lines ++ [line] } }.readOn

def endInput : Session := { s with feed := { s.feed with isEnded := true } }

/-- Publishes the next event, if a script listens. -/
def publish? : Option Session :=
  match s.feed.events with
  | event :: events =>
    if 0 < s.engine.world.stream.subscriberCount then
      some { s with engine := s.engine.publish event, feed := { s.feed with events } }.readOn
    else none
  | [] => none

/-! ### The scripts -/

def stepScript? (index : Nat) (wake : Wake) : Option Session :=
  (s.engine.stepAt? index wake).map fun engine => { s with engine }.transcribe.keep

end Session

end Questline
