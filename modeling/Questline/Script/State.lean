import Questline.Client
import Questline.Config
import Questline.Handler
import Questline.Number.Seconds
import Questline.Program
import Questline.Watch

/-! The state of a running script and of the world around it. A script is a machine that stands at a
place of its program, in a wait, or at its end; nothing of it is hidden in a thread. -/
namespace Questline

inductive Control where
  | stop
  | goto (label : String)
  | resume
deriving Repr, DecidableEq

inductive RunState where
  | created
  | running
  | suspended
  | stopped
deriving Repr, DecidableEq

inductive ScriptEvent where
  | started
  | fault (f : Fault)
  | stopped
deriving Repr, DecidableEq

def ScriptEvent.isFatal : ScriptEvent → Bool
  | fault f => f.isFatal
  | _ => false

structure Reading where
  name : String
  isKnown : Bool
  isSpecial : Bool
  value : Option Value

/-- What a script does to the world, in the order in which it does it. -/
inductive Effect where
  | echo (text : String)
  | trace (text : String)
  | send (text : String)
  | run (name : String) (arguments : List String)
  | sound (content : List UInt8)
  | setGlobal (name value : String)
  | removeGlobal (name : String)
  | inspected (line : Option Nat) (locals : Locals) (readings : List Reading)

/-- What a script waits for. A deadline is fixed when the wait begins; a wait for a time without one
lasts until it is interrupted. -/
inductive Wait where
  | roundtime (deadline : Nat)
  | delay (deadline : Option Nat)
  | parked
  | pause (deadline : Option Nat)
  | line (subscription : Nat) (matcher : Matcher) (binds : Bool)
  | event (subscription : Nat) (expected : GameEvent)
  | hit (subscription : Nat) (pending : List PendingMatch) (deadline : Option Nat)

def Wait.subscription? : Wait → Option Nat
  | line subscription .. | event subscription _ | hit subscription .. => some subscription
  | _ => none

def Wait.deadline? : Wait → Option Nat
  | roundtime t => some t
  | delay t | pause t | hit _ _ t => t
  | _ => none

def Wait.isOpen (w : Wait) : Bool := w.subscription?.isSome && w.deadline?.isNone

/-- What wakes a script that waits: a message from outside, an event that is queued for it, or its
deadline. Where several are ready, any of them may. -/
inductive Wake where
  | message
  | event
  | deadline
deriving Repr, DecidableEq

/-- Where a script stands. One that is ending takes up no further line, one that has stopped has yet
to announce it. -/
inductive Phase where
  | fresh
  | ready
  | waiting (w : Wait)
  | ending
  | stopped
  | finished

structure Script where
  name : String
  program : Program
  vars : Variables := .initial
  frames : List Frame := []
  watch : Watch := .empty
  controls : List Control := []
  requestedLabel : Option String := none
  state : RunState := .created
  phase : Phase := .fresh
  scriptPrefix : String
  debugging : Bool
  debugLevel : Nat
  delay : Float
  lastCondition : Bool := false
  -- the line that the loop takes up next, the one that runs, and the one that follows it unless it
  -- jumps
  cursor : Option Nat := none
  line : Option Nat := none
  next : Option Nat := none
  random : UInt32
  events : List ScriptEvent := []
  log : List Effect := []

namespace Script

def isActive (s : Script) : Bool := s.state == .running || s.state == .suspended

/-- Blocked on game output with nothing else that could end the wait. -/
def isWaitingOpenly (s : Script) : Bool :=
  match s.phase with
  | .waiting w => w.isOpen
  | _ => false

def deadline? (s : Script) : Option Nat :=
  match s.phase with
  | .waiting w => w.deadline?
  | _ => none

def isFinished (s : Script) : Bool :=
  match s.phase with
  | .finished => true
  | _ => false

def command? (s : Script) : Option Command := s.line.bind s.program.command?

def leastPositions : Nat := 9

/-- The arguments by name: all of them in one text under `0`, then each under its position. -/
def argumentBindings (arguments : List String) : List (String × String) :=
  ("0", Text.spaced arguments) ::
    (List.range (max leastPositions arguments.length)).map fun i =>
      (toString (i + 1), arguments.getD i "")

def bindArguments (vars : Variables) (arguments : List String) : Variables :=
  (argumentBindings arguments).foldl
    (fun vars (name, value) =>
      (vars.setLocal name (.text value)).setSpecial name (.value (.text value))) vars

def create (config : Config) (name : String) (program : Program) (arguments : List String) :
    Script where
  name
  program
  vars := bindArguments .initial arguments
  state := .running
  scriptPrefix := config.scriptPrefix
  debugging := config.debug
  debugLevel := config.debugLevel
  delay := config.delay
  random := config.randomSeed.getD 0

/-! ### Control from outside -/

/-- Ends the script. A script that has stopped is left alone. -/
def stop (s : Script) : Script :=
  if s.state == .stopped then s
  else { s with state := .stopped, controls := s.controls ++ [.stop] }

def suspend (s : Script) : Bool × Script :=
  if s.state == .running then (true, { s with state := .suspended }) else (false, s)

def resume (s : Script) : Bool × Script :=
  if s.state == .suspended then
    (true, { s with state := .running, controls := s.controls ++ [.resume] })
  else (false, s)

def requestGoto (s : Script) (label : String) : Script :=
  if s.isActive then { s with controls := s.controls ++ [.goto label] } else s

end Script

structure World (σ : Type) where
  client : σ
  globals : Globals := {}
  stream : Stream := .empty
  -- in milliseconds; a wait lasts a whole number of ticks
  now : Nat := 0
  tick : Nat := 1

namespace World

variable {σ : Type} (w : World σ)

/-- The clock counts seconds up to here; a wait beyond it has no end. -/
def clockLimit : Nat := Nat.pow 2 63

def waitLength? (seconds : Float) : Option Nat :=
  (Number.nanoseconds? seconds).bind fun nanos =>
    let tickNanos := w.tick * 1000000
    if nanos / Number.nanosPerSecond < clockLimit then
      some ((nanos + tickNanos - 1) / tickNanos * w.tick)
    else none

def deadlineAfter? (seconds : Float) : Option Nat := (w.waitLength? seconds).map (w.now + ·)

end World

structure Run (σ : Type) where
  script : Script
  world : World σ

namespace Run

variable {σ : Type} (r : Run σ)

def around [Client σ] : Surroundings :=
  ⟨r.world.globals, Client.live r.world.client r.world.now, r.world.now⟩

def note (e : Effect) : Run σ := { r with script := { r.script with log := r.script.log ++ [e] } }

def emit (e : ScriptEvent) : Run σ :=
  { r with script := { r.script with events := r.script.events ++ [e] } }

def trace (level : Nat) (text : String) : Run σ :=
  if r.script.debugging && level ≤ r.script.debugLevel then r.note (.trace text) else r

def setVars (vars : Variables) : Run σ := { r with script := { r.script with vars } }

def setLocal (name : String) (value : Value) : Run σ :=
  r.setVars (r.script.vars.setLocal name value)

def removeGlobal (name : String) : Run σ :=
  if r.world.globals.values.contains name then
    { r.note (.removeGlobal name) with
      world := { r.world with globals := r.world.globals.remove name } }
  else r

/-- A name has one home, so a global of the same name goes. -/
def setSpecial (name : String) (special : Special) : Run σ :=
  (r.removeGlobal name).setVars (r.script.vars.setSpecial name special)

def setGlobal (name : String) (value : Value) : Except Fault (Run σ) := do
  let globals ← r.script.vars.setGlobal r.world.globals name value
  return { r.note (.setGlobal name value.display) with world := { r.world with globals } }

def stop : Run σ := { r with script := { r.script with state := .stopped } }

def subscribe : Nat × Run σ :=
  let (id, stream) := r.world.stream.subscribe
  (id, { r with world := { r.world with stream } })

def unsubscribe (id : Nat) : Run σ :=
  { r with world := { r.world with stream := r.world.stream.unsubscribe id } }

def release (w : Wait) : Run σ :=
  match w.subscription? with
  | some id => r.unsubscribe id
  | none => r

def clearMatches : Run σ :=
  let (watch, stream) := r.script.watch.clear r.world.stream
  { script := { r.script with watch }, world := { r.world with stream } }

def register (p : PendingMatch) : Run σ :=
  let (watch, stream) := r.script.watch.register r.world.stream p
  { script := { r.script with watch }, world := { r.world with stream } }

/-! ### Jumps -/

def goto (label : String) : Except Fault (Run σ) := do
  let target ← r.script.program.resolve label
  let r := if target.fallback then
      r.trace 1 ("Label \"" ++ label ++ "\" not found, jumping to " ++ Program.errorLabel ++ ".")
    else r
  let r := r.trace 1 ("goto " ++ label)
  return { r with script := { r.script with next := target.line } }

def gosub (label arguments : String) : Except Fault (Run σ) := do
  let target ← r.script.program.resolve label
  let locals := r.script.vars.locals
  let frame : Frame := { resume := r.script.line.elim 0 (· + 1), locals }
  let r := r.setVars { r.script.vars with locals := subroutineLocals locals arguments }
  let r := { r with script := { r.script with frames := frame :: r.script.frames } }
  let r := r.trace 1 ("gosub " ++ label ++ " " ++ Text.trim arguments)
  return { r with script := { r.script with next := target.line } }

def returnBack : Except Fault (Run σ) := do
  let (frame, frames) ← popFrame r.script.frames
  let r := r.setVars { r.script.vars with locals := frame.locals }
  let next := r.script.program.firstAt? frame.resume
  let r := { r with script := { r.script with frames, next } }
  return r.trace 1 "return"

def bindGroups (groups : List String) : Run σ :=
  r.setVars (groups.zipIdx.foldl (fun vars (group, i) => vars.setLocal (toString i) (.text group))
    r.script.vars)

end Run

end Questline
