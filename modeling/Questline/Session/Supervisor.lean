import Questline.Session.State
import Questline.Source

/-! The supervisor of a session. It goes round its scripts, lets go of those that have stopped,
starts those that are asked for, and stops those that wait for game output after its end. It rests
when no script is left. -/
namespace Questline.Session

variable (s : Session)

/-- How long the supervisor waits for a request before it looks after its scripts again. -/
def patience : Nat := 50

/-- How long scripts may wait for game output after its end. -/
def grace : Nat := 250

def listenTo (index : Nat) : Session :=
  let announced := ((s.engine.scripts[index]?).map Script.events).getD []
  { s with
    hasFailed := s.hasFailed || announced.any ScriptEvent.isFatal
    engine := { s.engine with
      scripts := s.engine.scripts.modify index fun script => { script with events := [] } } }

def letGoOf (index : Nat) : Session :=
  { s with engine := { s.engine with scripts := s.engine.scripts.eraseIdx index } }

def start (request : RunRequest) : Session :=
  match Source.find s.console.disk request.name s.base with
  | .ok loaded =>
    { s with engine := s.engine.start loaded.name loaded.program request.arguments }.keep
  | .error f =>
    let sought := s.console.sought ++ Source.places request.name s.base
    (s.setConsole { s.console with sought }).write
      (.echo ("Could not run script " ++ Cause.quoted request.name ++ ": " ++ f.message))

/-- Stops the scripts that wait for game output once its end has been known for a while. -/
def stopStarving : Session :=
  if s.feed.isOver && s.engine.scripts.any Script.isWaitingOpenly then
    let since := s.starvingSince.getD s.now
    if since + grace ≤ s.now then
      let stopped := s.engine.scripts.map fun script =>
        if script.isWaitingOpenly then script.stop else script
      { s with starvingSince := none, engine := { s.engine with scripts := stopped } }
    else { s with starvingSince := some since }
  else { s with starvingSince := none }

def supervise? : Option Session :=
  match s.duty with
  | .look index =>
    match s.engine.scripts[index]? with
    | some script => some { s with duty := .listen index script.isActive }
    | none =>
      if s.engine.scripts.isEmpty then some { s with duty := .rest }
      else some { s with duty := .receive (s.now + patience) }
  | .listen index isActive =>
    some { s.listenTo index with duty := if isActive then .look (index + 1) else .part index }
  | .part index =>
    if (s.engine.scripts[index]?).all Script.isFinished then
      some { s.letGoOf index with duty := .look index }
    else none
  | .receive deadline =>
    match s.console.requests with
    | request :: requests =>
      some { (s.setConsole { s.console with requests }).start request with duty := .tend }
    | [] => if deadline ≤ s.now then some { s with duty := .tend } else none
  | .tend => some { s.stopStarving with duty := .look 0 }
  | .rest => none

def isReceiving : Bool :=
  match s.duty with
  | .receive _ => true
  | _ => false

def exitCode? : Option Nat :=
  match s.duty with
  | .rest => some (if s.hasFailed then 1 else 0)
  | _ => none

end Questline.Session
