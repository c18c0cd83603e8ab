import Questline.Session.Supervisor

/-! The course of a session. The supervisor goes its round without a break, then the scripts run
until each is blocked, then one event of the game is published. Time passes only when nothing else
can happen. -/
namespace Questline

namespace Session

inductive Actor where
  | script (index : Nat) (wake : Wake)
  | feeder
  | supervisor

def act? (s : Session) : Actor → Option Session
  | .script index wake => s.stepScript? index wake
  | .feeder => s.publish?
  | .supervisor => s.supervise?

variable (s : Session)

def actors : List Actor :=
  let scripts := (List.range s.engine.scripts.length).flatMap fun index =>
    Engine.wakes.map (Actor.script index)
  if s.isReceiving then scripts ++ [.feeder, .supervisor] else .supervisor :: scripts ++ [.feeder]

/-- The next time at which a wait of a script or of the supervisor ends. -/
def wakeTime? : Option Nat :=
  match s.duty with
  | .receive deadline => some ((s.engine.nextDeadline?.map (min deadline)).getD deadline)
  | .rest => none
  | _ => s.engine.nextDeadline?

def next? (limit : Option Nat) : Option Session :=
  match s.actors.findSome? s.act? with
  | some s => some s
  | none =>
    match s.wakeTime? with
    | some t => if limit.all (t ≤ ·) && s.now < t then some (s.setClock t) else none
    | none => none

/-- Lets everything happen up to a time, `fuel` acts at most. -/
def runWithin (limit : Option Nat) : (fuel : Nat) → Session → Session
  | 0, s => s
  | fuel + 1, s =>
    match s.next? limit with
    | some s => runWithin limit fuel s
    | none => s

/-- The number of acts after which scripts that never wait are left to themselves. -/
def endurance : Nat := 10000000

def run : Session := runWithin none endurance s

/-- Lets everything happen up to a time, which then is the current one. -/
def advanceTo (time : Nat) : Session :=
  let s := runWithin (some time) endurance s
  s.setClock (max time s.now)

end Session

end Questline
