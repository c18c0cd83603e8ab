import Questline.Script.Dispatch
import Questline.Script.Expansion

/-! The steps of a script. Each step takes a script from one place to the next: it begins, takes up
a line, handles a message from outside, wakes from a wait, or ends. A script that waits may be woken
by any of the things that are ready for it, in no fixed order; one that cannot take a step is
blocked or finished. -/
namespace Questline

variable {σ : Type} [Client σ]

namespace Run

def lineText (r : Run σ) (lineNumber : Option Nat) : String :=
  match lineNumber with
  | some (index + 1) => ((r.script.program.command? index).map (·.text)).getD ""
  | _ => ""

/-- Shows a fault to the user and announces it. One without a line is blamed on the current one. -/
def report (r : Run σ) (f : Fault) : Run σ :=
  let f := r.script.line.elim f fun index => f.atLine (index + 1)
  let kind := if f.isFatal then "error" else "warning"
  let number := f.line.elim "?" toString
  let text := r.lineText f.line
  let shown := if text.isEmpty then "" else " (" ++ text ++ ")"
  (r.note (.echo ("Script " ++ kind ++ " on line " ++ number ++ shown ++ ": " ++ f.message))).emit
    (.fault f)

def setPhase (r : Run σ) (phase : Phase) : Run σ := { r with script := { r.script with phase } }

def finish (r : Run σ) : Run σ := r.setPhase .ending

def shutDown (r : Run σ) : Run σ := r.clearMatches.stop.setPhase .stopped

def sayGoodbye (r : Run σ) : Run σ := (r.emit .stopped).setPhase .finished

def crash (r : Run σ) : Run σ :=
  ((r.clearMatches.stop.emit (.fault (Fault.ofCause (.scriptCrashed r.script.name)))).emit
    .stopped).setPhase .finished

def moveOn (r : Run σ) : Run σ :=
  { r with script := { r.script with cursor := r.script.next, phase := .ready } }

def handleFault (r : Run σ) (f : Fault) : Run σ :=
  let r := r.report f
  if f.isFatal then r.finish else r.moveOn

def conclude : Run σ × Outcome → Run σ
  | (r, .done) | (r, .interrupted) => r.moveOn
  | (r, .fault f) => r.handleFault f
  | (r, .waiting w) => r.setPhase (.waiting w)
  | (r, .crashed) => r.crash

/-- What a step of a script comes to: the place at which it is over, or a command line whose
execution is the rest of it. -/
inductive Turn (σ : Type) where
  | ended (r : Run σ)
  | execute (r : Run σ) (line : String)

def Turn.complete (table : CommandTable) : Turn σ → Run σ
  | ended r => r
  | execute r line => conclude (r.execute table line.toList)

/-! ### Before a command -/

/-- How often round-time is looked at, in milliseconds. -/
def roundtimePoll : Nat := 100

def arrive (r : Run σ) : Turn σ :=
  if r.script.state == .suspended then .ended (r.setPhase (.waiting .parked))
  else if !r.script.isActive then .ended r.moveOn
  else
    match r.script.command? with
    | some command => .execute r (expand r.script.vars r.around command.text)
    | none => .ended r.moveOn

/-- Waits until round-time is over, then for the configured delay, and goes on. -/
def throttle (r : Run σ) : Turn σ :=
  if 0 < Client.roundtime r.world.client r.world.now then
    .ended (r.setPhase (.waiting (.roundtime (r.world.now + roundtimePoll))))
  else if 0 < r.script.delay then
    .ended (r.setPhase (.waiting (.delay (r.world.deadlineAfter? r.script.delay))))
  else r.arrive

def approach (r : Run σ) : Turn σ :=
  match r.script.command? with
  | some command => if command.instant then r.arrive else r.throttle
  | none => .ended r.moveOn

/-! ### The loop over lines -/

def launch (r : Run σ) : Run σ :=
  let r := r.emit .started
  let r := r.script.program.warnings.foldl report r
  { r with script := { r.script with
      cursor := r.script.program.firstAt? 0, phase := .ready } }

/-- Takes all messages, up to one to stop, and tells whether there was one. Of several labels the
last one counts. -/
def poll (label : Option String) : List Control → Bool × Option String × List Control
  | [] => (false, label, [])
  | .stop :: rest => (true, label, rest)
  | .goto l :: rest => poll (some l) rest
  | .resume :: rest => poll label rest

def takeUp (r : Run σ) (index : Nat) : Turn σ :=
  let following := r.script.program.next? index
  match r.script.program.command? index with
  | none => .ended { r with script := { r.script with cursor := following } }
  | some _ =>
    { r with script := { r.script with line := some index, next := following } }.approach

def enter (r : Run σ) : Turn σ :=
  match r.script.cursor with
  | none => .ended r.finish
  | some index => r.takeUp index

/-- One round of the loop: messages first, then a requested jump, then the next line. -/
def proceed (r : Run σ) : Turn σ :=
  if !r.script.isActive then .ended r.finish
  else
    let (stopped, label, controls) := poll r.script.requestedLabel r.script.controls
    let r := { r with script := { r.script with requestedLabel := label, controls } }
    if stopped then .ended r.finish
    else
      match label with
      | none => r.enter
      | some label =>
        let r := { r with script := { r.script with requestedLabel := none } }
        match r.script.program.resolve label with
        | .ok target => { r with script := { r.script with cursor := target.line } }.enter
        | .error f => .ended (r.report f).finish

/-! ### Waits -/

/-- Ends a wait early. The command that waited has no further effect. -/
def interrupt (r : Run σ) (w : Wait) : Run σ := (r.release w).moveOn

def heed (r : Run σ) (w : Wait) (message : Control) (rest : List Control) : Turn σ :=
  let r := { r with script := { r.script with controls := rest } }
  match message with
  | .stop => .ended (r.interrupt w)
  | .goto label =>
    .ended ({ r with script := { r.script with requestedLabel := some label } }.interrupt w)
  | .resume =>
    match w with
    | .parked => r.approach
    | _ => .ended r

def isDue (r : Run σ) (deadline : Option Nat) : Bool := deadline.any (· ≤ r.world.now)

/-- What a command that waited for game output does with an event. `none` means that it goes on
waiting. -/
def meet (r : Run σ) (w : Wait) (event : GameEvent) : Option (Run σ × Outcome) :=
  match w, event with
  | .line _ matcher binds, .line text =>
    (matcher.find? text).map fun groups =>
      let r := r.release w
      (if binds then r.bindGroups groups else r, .done)
  | .event _ expected, event => if event = expected then some (r.release w, .done) else none
  | .hit _ pending _, .line text =>
    (firstHit? pending text).map fun hit =>
      let r := r.release w
      let r := hit.groups.elim r r.bindGroups
      Commands.attempt r (r.goto hit.label)
  | _, _ => none

def expire (r : Run σ) : Wait → Turn σ
  | .roundtime _ => r.throttle
  | .delay _ => r.arrive
  | w@(.hit ..) => .ended ((r.release w).trace 1 "matchwait timed out").moveOn
  | w => .ended (r.release w).moveOn

/-- What a waiting script does that is woken in some way, if it can be woken in this way. An event
that is not what it waits for is passed over, and the wait goes on as it was. -/
def wake? (r : Run σ) (w : Wait) : Wake → Option (Turn σ)
  | .message =>
    match r.script.controls with
    | message :: rest => some (r.heed w message rest)
    | [] => none
  | .event =>
    (w.subscription?.bind r.world.stream.take?).map fun (event, stream) =>
      let r := { r with world := { r.world with stream } }
      .ended ((r.meet w event).elim r conclude)
  | .deadline => if r.isDue w.deadline? then some (r.expire w) else none

/-- What the next step of a script comes to, if it can take one. Only a waiting script has to be
woken. -/
def turn? (r : Run σ) (wake : Wake) : Option (Turn σ) :=
  match r.script.phase with
  | .fresh => some (.ended r.launch)
  | .ready => some r.proceed
  | .waiting w => r.wake? w wake
  | .ending => some (.ended r.shutDown)
  | .stopped => some (.ended r.sayGoodbye)
  | .finished => none

def step? (table : CommandTable) (wake : Wake) (r : Run σ) : Option (Run σ) :=
  (r.turn? wake).map (Turn.complete table)

end Run

end Questline
