import Questline.Random
import Questline.Script.Arguments
import Questline.Script.State

/-! What each builtin command does. A command works on the script and the world around it and ends
in an outcome; one that has to wait ends in the wait, and what is left to do after it is known from
the wait. A command that fails leaves everything as it was, messages for debugging apart. -/
namespace Questline

inductive Outcome where
  | done
  | fault (f : Fault)
  | interrupted
  | waiting (w : Wait)
  | crashed

namespace Commands

variable {σ : Type} [Client σ] (r : Run σ) (arguments : String)

def fail (r : Run σ) (cause : Cause) : Run σ × Outcome := (r, .fault (Fault.ofCause cause))

/-- The outcome of a change that may fail; a failed one is not made. -/
def attempt (r : Run σ) : Except Fault (Run σ) → Run σ × Outcome
  | .ok r => (r, .done)
  | .error f => (r, .fault f)

def setVariable : Run σ × Outcome :=
  match Arguments.named? arguments with
  | none => fail r (.invalidArguments .setVariable)
  | some (name, value) =>
    let r := r.trace 1 ("setVariable: " ++ name ++ "=" ++ value)
    attempt r (r.setGlobal name (.text value))

def setLocal : Run σ × Outcome :=
  match Arguments.named? arguments with
  | none => fail r (.invalidArguments .setLocal)
  | some (name, value) =>
    ((r.trace 1 ("setLocalVariable: " ++ name ++ "=" ++ value)).setLocal name (.text value), .done)

def deleteVariable : Run σ × Outcome :=
  let name := Text.firstWord arguments
  if name.isEmpty then fail r (.invalidArguments .deleteVariable)
  else ((r.setVars (r.script.vars.deleteSpecial name)).removeGlobal name, .done)

def deleteLocal : Run σ × Outcome :=
  let name := Text.firstWord arguments
  if name.isEmpty then fail r (.invalidArguments .deleteLocal)
  else (r.setVars (r.script.vars.deleteLocal name), .done)

def goto : Run σ × Outcome :=
  let label := Text.firstWord arguments
  if label.isEmpty then fail r (.invalidArguments .goto) else attempt r (r.goto label)

def gosub : Run σ × Outcome :=
  match Arguments.named? arguments with
  | none => fail r (.invalidArguments .gosub)
  | some (label, rest) => attempt r (r.gosub label rest)

def matchText : Run σ × Outcome :=
  match Arguments.labelAndText? arguments with
  | none => fail r (.invalidArguments .matchText)
  | some (label, text) => (r.register ⟨.text text, label⟩, .done)

def matchPattern : Run σ × Outcome :=
  match Arguments.labelAndPattern? arguments with
  | none => fail r (.invalidArguments .matchPattern)
  | some (label, pattern, flags) =>
    match Matcher.ofPattern pattern (Arguments.ignoresCase flags) with
    | .error f => (r, .fault f)
    | .ok matcher => (r.register ⟨matcher, label⟩, .done)

/-- Begins to wait for the registered matches, which the wait takes over. -/
def awaitMatch (deadline : Option Nat) : Run σ × Outcome :=
  match r.script.watch.ready? with
  | some (id, pending) =>
    ({ r with script := { r.script with watch := .empty } }, .waiting (.hit id pending deadline))
  | none => fail r.clearMatches .nothingPending

/-- The limit of a wait is given in seconds and counts from its beginning; zero means none. -/
def matchWait : Run σ × Outcome :=
  let word := Text.firstWord arguments
  if word.isEmpty then awaitMatch r none
  else
    match Arguments.seconds? word with
    | none => fail r (.notSeconds .matchWait word)
    | some seconds =>
      awaitMatch r (if 0 < seconds then r.world.deadlineAfter? seconds else none)

def waitFor : Run σ × Outcome :=
  let text := Text.trim arguments
  if text.isEmpty then fail r (.invalidArguments .waitFor)
  else
    let (id, r) := r.subscribe
    (r.trace 1 ("waitfor " ++ text), .waiting (.line id (.text text) false))

def waitForPattern : Run σ × Outcome :=
  match Arguments.pattern? arguments with
  | none => fail r (.invalidArguments .waitForPattern)
  | some (pattern, flags) =>
    match Matcher.ofPattern pattern (Arguments.ignoresCase flags) with
    | .error f => (r, .fault f)
    | .ok matcher =>
      let (id, r) := r.subscribe
      (r, .waiting (.line id matcher true))

def waitForEvent (event : GameEvent) : Run σ × Outcome :=
  let (id, r) := r.subscribe
  (r, .waiting (.event id event))

def send (text : String) : Except Fault Unit × Run σ :=
  match Client.send r.world.client text with
  | (.ok (), client) => (.ok (), { r.note (.send text) with world := { r.world with client } })
  | (.error reason, client) =>
    (.error (Fault.ofCause (.sendFailed text reason)), { r with world := { r.world with client } })

/-- Sends a direction and waits for the next room. It listens before it sends, so that a room that
comes at once is not missed. -/
def move : Run σ × Outcome :=
  let direction := Text.trim arguments
  if direction.isEmpty then fail r (.invalidArguments .move)
  else
    let (id, r) := r.subscribe
    match send r direction with
    | (.ok (), r) => (r, .waiting (.event id .roomChange))
    | (.error f, r) => (r.unsubscribe id, .fault f)

/-- Sends a text. A text that starts another script ends this one. -/
def put : Run σ × Outcome :=
  let text := Text.trim arguments
  match send r text with
  | (.error f, r) => (r, .fault f)
  | (.ok (), r) =>
    let handsOver := !r.script.scriptPrefix.isEmpty && Text.startsWith text r.script.scriptPrefix
    (if handsOver then r.stop else r, .done)

def pause : Run σ × Outcome :=
  let word := Text.firstWord arguments
  if word.isEmpty then (r, .waiting (.pause (r.world.deadlineAfter? 1)))
  else
    match Arguments.seconds? word with
    | none => fail r (.notSeconds .pause word)
    | some seconds => (r, .waiting (.pause (r.world.deadlineAfter? seconds)))

def delay : Run σ × Outcome :=
  let word := Text.firstWord arguments
  match Arguments.seconds? word with
  | none => fail r (.notSeconds .delay word)
  | some seconds => ({ r with script := { r.script with delay := seconds } }, .done)

/-! ### Arithmetic -/

def calculate (operator : String) (x y : Float) : Except Cause Float :=
  match operator with
  | "add" => .ok (x + y)
  | "subtract" => .ok (x - y)
  | "multiply" => .ok (x * y)
  | "divide" => if y == 0 then .error .divisionByZero else .ok (x / y)
  | "modulus" => if y == 0 then .error .divisionByZero else .ok (Number.remainder x y)
  | other => .error (.unknownOperator other)

def operand? : List String → Except Cause Float
  | [] => .ok 1
  | word :: _ =>
    match Number.read? word with
    | some x => .ok x
    | none => .error (.operandNotNumber word)

/-- The number that a variable holds; one that does not exist holds zero. -/
def numberOf (name : String) : Except Cause Float :=
  match r.script.vars.get? r.around name with
  | none => .ok 0
  | some value =>
    match value.toNumber with
    | .ok x => .ok x
    | .error _ => .error (.variableNotNumber name)

def operate (target : String) (words : List String) : Run σ × Outcome :=
  match words with
  | [] => fail r (.invalidArguments .math)
  | operator :: operands =>
    let operator := Text.lower operator
    match operand? operands with
    | .error cause => fail r cause
    | .ok y =>
      if operator = "set" then attempt r (r.setGlobal target (.number y))
      else
        match numberOf r target with
        | .error cause => fail r cause
        | .ok x =>
          match calculate operator x y with
          | .error cause => fail r cause
          | .ok z =>
            let r := r.trace 1
              ("math " ++ target ++ ": " ++ Number.display x ++ " -> " ++ Number.display z)
            attempt r (r.setGlobal target (.number z))

def math : Run σ × Outcome :=
  match Text.words arguments with
  | [] => fail r (.invalidArguments .math)
  | target :: words => operate r target words

/-- The variable that the counter works on. -/
def counterName : String := "c"

def counter : Run σ × Outcome :=
  match Text.words arguments with
  | [] => fail r (.invalidArguments .counter)
  | words => operate r counterName words

/-- The variable that holds the last random number. -/
def randomName : String := "r"

def random : Run σ × Outcome :=
  match Arguments.twoNumerals? arguments with
  | none => fail r (.invalidArguments .random)
  | some (lowText, highText) =>
    match Arguments.word32? lowText, Arguments.word32? highText with
    | none, _ => fail r (.boundTooLarge lowText)
    | _, none => fail r (.boundTooLarge highText)
    | some low, some high =>
      if high < low then fail r (.emptyRange low high)
      else
        let (value, next) := Random.inRange low high r.script.random
        let r := { r with script := { r.script with random := next } }
        (r.setSpecial randomName (.value (.number (Float.ofNat value))), .done)

/-! ### Timers and positions -/

/-- The timer that is meant where none is named. -/
def timerName : String := "t"

def timer : Run σ × Outcome :=
  match Arguments.actionAndName? arguments with
  | none => fail r (.invalidArguments .timer)
  | some (action, name?) =>
    let name := name?.getD timerName
    let current? := r.script.vars.timer? name
    let now := r.world.now
    if current?.isNone && r.script.vars.exists? r.world.globals name then fail r (.notTimer name)
    else
      match action, current? with
      | "start", some t => (r.setVars (r.script.vars.setSpecial name (.timer (t.start now))), .done)
      | "start", none => (r.setSpecial name (.timer (Timer.fresh.start now)), .done)
      | "stop", some t => (r.setVars (r.script.vars.setSpecial name (.timer (t.stop now))), .done)
      | "clear", some t => (r.setVars (r.script.vars.setSpecial name (.timer t.clear)), .done)
      | "stop", none | "clear", none => fail r (.timerUndefined name)
      | other, _ => fail r (.timerAction other)

/-- The positions live either among the locals or among the special variables. -/
structure Positions (σ : Type) where
  has : Run σ → String → Bool
  get? : Run σ → String → Option Value
  set : Run σ → String → String → Run σ

def localPositions : Positions σ where
  has r name := r.script.vars.locals.contains name
  get? r name := r.script.vars.locals.get? name
  set r name text := r.setLocal name (.text text)

def sharedPositions : Positions σ where
  has r name := r.script.vars.exists? r.world.globals name
  get? r name := r.script.vars.get? r.around name
  set r name text := r.setSpecial name (.value (.text text))

/-- Moves each position from `position` on to the one before it. The last one becomes empty, and `0`
the texts that were moved, without the empty ones. -/
def shiftFrom (p : Positions σ) :
    (fuel position : Nat) → (moved : List String) → Run σ → Run σ × Outcome
  | 0, _, _, r => (r, .done)
  | fuel + 1, position, moved, r =>
    let next := toString (position + 1)
    if p.has r next then
      match p.get? r next with
      | none => fail r (.argumentVanished next)
      | some value =>
        shiftFrom p fuel (position + 1) (moved ++ [value.display])
          (p.set r (toString position) value.display)
    else
      let r := p.set r "0" (Text.spaced (moved.filter fun text => !text.isEmpty))
      (p.set r (toString position) "", .done)

/-- A bound on the number of positions: each has a name of its own. -/
def nameCount : Nat :=
  r.script.vars.locals.size + r.script.vars.specials.size + r.world.globals.values.size +
    r.world.globals.phantoms.length

def shift : Run σ × Outcome :=
  let positions := if Text.lowerPlain (Text.firstWord arguments) = "local" then localPositions
    else sharedPositions
  shiftFrom positions (nameCount r + 1) 1 [] r

/-- The variable that holds the saved text. -/
def saveName : String := "s"

def save : Run σ × Outcome :=
  (r.setSpecial saveName (.value (.text (Text.trim arguments))), .done)

/-! ### Other scripts, sounds, debugging -/

/-- Asks the client to run another script. That this fails is never fatal for this one. -/
def run : Run σ × Outcome :=
  match Text.words arguments with
  | [] => fail r (.invalidArguments .run)
  | name :: words =>
    match Client.run r.world.client name words with
    | (.ok (), client) =>
      ({ r.note (.run name words) with world := { r.world with client } }, .done)
    | (.error f, client) => ({ r with world := { r.world with client } }, .fault f.asWarning)

def playSound : Run σ × Outcome :=
  let path := Text.trim arguments
  if path.isEmpty then fail r (.invalidArguments .playSound)
  else
    let (outcome, client) := Client.sound r.world.client path
    let r := { r with world := { r.world with client } }
    match outcome with
    | .unopened error => fail r (.soundMissing path error)
    | .failed reason => fail r (.soundFailed path reason)
    | .played content => (r.note (.sound content), .done)

def debug : Run σ × Outcome :=
  let word := Text.lower (Text.firstWord arguments)
  let debugging := ["", "on", "true", "yes"].contains word
  ({ r with script := { r.script with debugging } }, .done)

def debugLevel : Run σ × Outcome :=
  match Arguments.word32? (Text.trim arguments) with
  | some debugLevel => ({ r with script := { r.script with debugLevel } }, .done)
  | none => (r, .done)

/-- Performs a command other than the conditionals, whose arguments are commands in turn. -/
def perform (command : Builtin) : Run σ × Outcome :=
  match command with
  | .counter => counter r arguments
  | .debug => debug r arguments
  | .debugLevel => debugLevel r arguments
  | .delay => delay r arguments
  | .deleteLocal => deleteLocal r arguments
  | .deleteVariable => deleteVariable r arguments
  | .echo => (r.note (.echo arguments), .done)
  | .exit => (r.stop, .done)
  | .gosub => gosub r arguments
  | .goto => goto r arguments
  | .matchText => matchText r arguments
  | .matchPattern => matchPattern r arguments
  | .matchWait => matchWait r arguments
  | .math => math r arguments
  | .move => move r arguments
  | .nextRoom => waitForEvent r .roomChange
  | .pause => pause r arguments
  | .playSound => playSound r arguments
  | .put => put r arguments
  | .random => random r arguments
  | .returnBack => attempt r r.returnBack
  | .run => run r arguments
  | .save => save r arguments
  | .setLocal => setLocal r arguments
  | .setVariable => setVariable r arguments
  | .shift => shift r arguments
  | .timer => timer r arguments
  | .wait => waitForEvent r .prompt
  | .waitFor => waitFor r arguments
  | .waitForPattern => waitForPattern r arguments
  | .ifSet _ | .otherwise => (r, .done)

end Commands

end Questline
