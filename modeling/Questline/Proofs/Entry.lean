import Questline.Proofs.Keywords

/-! How the execution of a line enters commands. A line enters the command of its keyword, which may
execute its arguments as a line in turn. What is executed at any depth, and what any command is
given there, is a part of the line as it stands. -/
namespace Questline

open Text

variable {σ : Type} [Client σ]

/-- What a command does with its arguments once it is entered. -/
def Action.run (table : CommandTable) (r : Run σ) (arguments : List Char) : Action → Run σ × Outcome
  | .builtin (.ifSet digit) =>
    let q := { r with script := { r.script with lastCondition := r.condition digit } }
    if r.condition digit then q.execute table arguments else (q, .done)
  | .builtin .otherwise =>
    if r.script.lastCondition then (r, .done) else r.execute table arguments
  | .builtin command => Commands.perform r (String.ofList arguments) command
  | .custom handler =>
    let (requests, reaction) := handler (String.ofList arguments)
    match r.grantAll requests with
    | (q, some f) => (q, .fault f)
    | (q, none) => reaction.outcome?.elim (q.execute table arguments) fun o => (q, o)

namespace Run

/-- The state in which a command is entered: the line has been shown for debugging. -/
def shown (r : Run σ) (line : List Char) : Run σ :=
  r.trace 2 ("Debug: " ++ String.ofList (trimChars line))

/-! ### One keyword -/

/-- What the execution of a line comes to that has been followed up to its keyword. -/
def Way.taken (table : CommandTable) (r : Run σ) : Way → Run σ × Outcome
  | .there (.command builtin arguments) => Commands.perform r arguments builtin
  | .there (.ended outcome) => (r, outcome)
  | .onward rest => r.execute table rest

theorem dispatch_way {table : CommandTable} {r q : Run σ} {line : List Char} {way : Way}
    (led : r.way table line = (q, way)) :
    r.dispatch table line = match way with
      | .there destination => (q, destination)
      | .onward rest => q.dispatch table rest := by
  rw [dispatch]
  split
  · next also => cases led.symm.trans also; rfl
  · next also => cases led.symm.trans also; rfl

theorem execute_way {table : CommandTable} {r q : Run σ} {line : List Char} {way : Way}
    (led : r.way table line = (q, way)) : r.execute table line = way.taken table q := by
  rw [execute, dispatch_way led]
  cases way with
  | there destination => cases destination <;> rfl
  | onward rest => rfl

theorem taken_follow (table : CommandTable) (r : Run σ) (text : String) (arguments : List Char)
    (action : Action) :
    Way.taken table (r.follow text arguments (some action)).1
      (r.follow text arguments (some action)).2 = action.run table r arguments := by
  cases action with
  | custom handler =>
    simp only [follow, Action.run]
    cases r.grantAll (handler (String.ofList arguments)).1 with
    | mk q fault =>
      cases fault with
      | some f => rfl
      | none => cases (handler (String.ofList arguments)).2.outcome? <;> rfl
  | builtin command =>
    cases command with
    | ifSet digit =>
      cases holds : r.condition digit <;> simp only [follow, Action.run, holds] <;> rfl
    | otherwise =>
      cases held : r.script.lastCondition <;> simp only [follow, Action.run, held] <;> rfl
    | _ => simp only [follow, Action.run, Way.taken]

theorem execute_of_split_none {table : CommandTable} {r : Run σ} {line : List Char}
    (split : Arguments.splitLine? (trimChars line) = none) :
    r.execute table line = (r, .done) := by
  have led : r.way table line = (r, .there (.ended .done)) := by
    unfold way
    rw [split]
  rw [execute_way led, Way.taken]

theorem execute_of_split_some {table : CommandTable} {r : Run σ}
    {line keyword arguments : List Char} {action : Action}
    (split : Arguments.splitLine? (trimChars line) = some (keyword, arguments))
    (found : table.get? (String.ofList keyword) = some action) :
    r.execute table line = action.run table (r.shown line) arguments := by
  have led : r.way table line =
      (r.shown line).follow (String.ofList (trimChars line)) arguments (some action) := by
    unfold way
    rw [split]
    simp only [found, shown]
  rw [← taken_follow table (r.shown line) (String.ofList (trimChars line)), ← led]
  exact execute_way rfl

theorem execute_of_split_unknown {table : CommandTable} {r : Run σ}
    {line keyword arguments : List Char}
    (split : Arguments.splitLine? (trimChars line) = some (keyword, arguments))
    (absent : table.get? (String.ofList keyword) = none) :
    r.execute table line =
      (r.shown line, .fault (Fault.ofCause (.commandUnknown (String.ofList (trimChars line))))) := by
  have led : r.way table line = (r.shown line,
      .there (.ended (.fault (Fault.ofCause (.commandUnknown (String.ofList (trimChars line))))))) := by
    unfold way
    rw [split]
    simp only [absent]
    rfl
  rw [execute_way led, Way.taken]

/-! ### Lines within a line -/

/-- Executing a line comes to executing another one in the course of it. -/
inductive ComesTo (table : CommandTable) : Run σ → List Char → Run σ → List Char → Prop
  | here {r : Run σ} {line : List Char} : ComesTo table r line r line
  | onward {r q last : Run σ} {line rest inner : List Char}
      (led : r.way table line = (q, .onward rest)) (further : ComesTo table q rest last inner) :
      ComesTo table r line last inner

theorem ComesTo.execute {table : CommandTable} {r q : Run σ} {line inner : List Char}
    (reached : ComesTo table r line q inner) : r.execute table line = q.execute table inner := by
  induction reached with
  | here => rfl
  | onward led _ ih => rw [execute_way led, ← ih, Way.taken]

end Run

/-! ### Nothing is added to a line -/

theorem Text.trimChars_isInfix (cs : List Char) : trimChars cs <:+: cs := by
  have ending : trimChars cs <+: cs.dropWhile isBlank :=
    List.rdropWhile_prefix isBlank (cs.dropWhile isBlank)
  exact ending.isInfix.trans (List.dropWhile_suffix isBlank).isInfix

theorem Arguments.arguments_isSuffix {cs keyword arguments : List Char}
    (split : splitLine? cs = some (keyword, arguments)) : arguments <:+ cs := by
  rcases (splitLine_some split).2 with rfl | ⟨blank, rest, _, rfl, rfl⟩
  · exact List.nil_suffix
  · have later : rest <:+ keyword ++ blank :: rest := ⟨keyword ++ [blank], by simp⟩
    exact (List.dropWhile_suffix isBlank).trans later

namespace Run

theorem arguments_isInfix {line keyword arguments : List Char}
    (split : Arguments.splitLine? (trimChars line) = some (keyword, arguments)) :
    arguments <:+: line :=
  (Arguments.arguments_isSuffix split).isInfix.trans (trimChars_isInfix line)

theorem onward_isInfix {table : CommandTable} {r q : Run σ} {line rest : List Char}
    (led : r.way table line = (q, .onward rest)) : rest <:+: line := by
  have follows := way_follows table r line
  rw [led] at follows
  cases follows with
  | conditional split => exact arguments_isInfix split
  | custom split => exact arguments_isInfix split

theorem ComesTo.isInfix {table : CommandTable} {r q : Run σ} {line inner : List Char}
    (reached : ComesTo table r line q inner) : inner <:+: line := by
  induction reached with
  | here => exact List.infix_refl _
  | onward led _ ih => exact ih.trans (onward_isInfix led)

end Run

end Questline
