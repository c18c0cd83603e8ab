import Questline.Script.Commands

/-! From a command line to the command it names. -/
namespace Questline

variable {σ : Type} [Client σ]

/-- How a custom command ends, unless it goes on with its arguments. -/
def Reaction.outcome? : Reaction → Option Outcome
  | done => some .done
  | fail f => some (.fault f)
  | giveUp => some .interrupted
  | crash => some .crashed
  | execute => none

namespace Run

def reading (r : Run σ) (name : String) : Reading where
  name
  isKnown := r.script.vars.exists? r.world.globals name
  isSpecial := r.script.vars.isSpecial name
  value := r.script.vars.get? r.around name

def grant (r : Run σ) : Request → Except Fault (Run σ)
  | .echo text => .ok (r.note (.echo text))
  | .trace level text => .ok (r.trace level text)
  | .publish event =>
    .ok { r with world := { r.world with stream := r.world.stream.publish event } }
  | .goto label => r.goto label
  | .stop => .ok r.stop
  | .setSpecial name value => .ok (r.setSpecial name (.value value))
  | .inspect names =>
    .ok (r.note (.inspected (r.script.line.map (· + 1)) r.script.vars.locals (names.map r.reading)))

def grantAll (r : Run σ) : List Request → Run σ × Option Fault
  | [] => (r, none)
  | request :: rest =>
    match r.grant request with
    | .ok r => r.grantAll rest
    | .error f => (r, some f)

/-- Whether the variable that a conditional asks about exists and is not empty. -/
def condition (r : Run σ) (digit : Fin 10) : Bool :=
  match r.script.vars.lookup? r.around (toString digit.val) with
  | some value => !value.isEmpty
  | none => false

inductive Destination where
  /-- To a builtin command other than a conditional, with its arguments. -/
  | command (c : Builtin) (arguments : String)
  | ended (o : Outcome)

/-- What becomes of a command line at its keyword. -/
inductive Way where
  | there (d : Destination)
  /-- The arguments are a command line in turn. -/
  | onward (arguments : List Char)

/-- Does what a keyword stands for. Conditionals lead on to their arguments. -/
def follow (r : Run σ) (shown : String) (arguments : List Char) : Option Action → Run σ × Way
  | none => (r, .there (.ended (.fault (Fault.ofCause (.commandUnknown shown)))))
  | some (.builtin (.ifSet digit)) =>
    let holds := r.condition digit
    ({ r with script := { r.script with lastCondition := holds } },
      if holds then .onward arguments else .there (.ended .done))
  | some (.builtin .otherwise) =>
    (r, if r.script.lastCondition then .there (.ended .done) else .onward arguments)
  | some (.builtin command) => (r, .there (.command command (String.ofList arguments)))
  | some (.custom handler) =>
    let (requests, reaction) := handler (String.ofList arguments)
    match r.grantAll requests with
    | (r, some f) => (r, .there (.ended (.fault f)))
    | (r, none) => (r, reaction.outcome?.elim (.onward arguments) fun o => .there (.ended o))

/-- Follows a line as far as its keyword says. A line that does not begin with a keyword leads
nowhere. -/
def way (table : CommandTable) (r : Run σ) (line : List Char) : Run σ × Way :=
  match Arguments.splitLine? (Text.trimChars line) with
  | none => (r, .there (.ended .done))
  | some (keyword, arguments) =>
    let shown := String.ofList (Text.trimChars line)
    (r.trace 2 ("Debug: " ++ shown)).follow shown arguments (table.get? (String.ofList keyword))

theorem eq_of_follow {r : Run σ} {shown : String} {arguments rest : List Char}
    {action : Option Action} (led : (r.follow shown arguments action).2 = .onward rest) :
    rest = arguments := by
  unfold follow at led
  split at led
  · cases led
  · simp only at led
    split at led <;> cases led
    rfl
  · simp only at led
    split at led <;> cases led
    rfl
  · cases led
  · next handler =>
    simp only at led
    split at led
    · cases led
    · cases outcome : (handler (String.ofList arguments)).2.outcome? with
      | none => rw [outcome] at led; cases led; rfl
      | some o => rw [outcome] at led; cases led

theorem length_lt_of_way {table : CommandTable} {r q : Run σ} {line rest : List Char}
    (led : r.way table line = (q, .onward rest)) : rest.length < line.length := by
  have trimmed := Command.length_trimChars_le line
  unfold way at led
  split at led
  · cases led
  · next keyword arguments split =>
    have shorter := Arguments.length_lt_of_splitLine? split
    rw [eq_of_follow (congrArg Prod.snd led)]
    omega

/-- Follows a line whose references have been replaced to where it leads. -/
def dispatch (table : CommandTable) (r : Run σ) (line : List Char) : Run σ × Destination :=
  match _led : r.way table line with
  | (q, .there destination) => (q, destination)
  | (q, .onward rest) => dispatch table q rest
termination_by line.length
decreasing_by exact length_lt_of_way _led

def execute (table : CommandTable) (r : Run σ) (line : List Char) : Run σ × Outcome :=
  match r.dispatch table line with
  | (r, .command command arguments) => Commands.perform r arguments command
  | (r, .ended outcome) => (r, outcome)

end Run

end Questline
