import Questline.Proofs.Attention
import Questline.Proofs.Entry
import Questline.Proofs.Homes

/-! Which commands reach the global variables, which outlive the scripts. A command names what it
sets and what it deletes; a special variable that is set evicts the global of its name; a
conditional reaches what the command behind it reaches, at any depth. Nothing else touches a global,
also not while a command waits or when it is cut short. -/
namespace Questline

open Text

inductive Edit where
  | set (name : String)
  | remove (name : String)

namespace Globals

/-- Every global is as it was or has been changed as allowed. -/
structure Edited (may : Edit → Prop) (g g' : Globals) : Prop where
  values (name : String) : g'.get? name = g.get? name ∨
    may (.set name) ∧ (g'.get? name).isSome ∨ may (.remove name) ∧ g'.get? name = none
  phantoms : g'.phantoms = g.phantoms

namespace Edited

variable {may : Edit → Prop} {g g' g'' : Globals}

theorem refl (g : Globals) : Edited may g g := ⟨fun _ => .inl rfl, rfl⟩

theorem of_eq (same : g' = g) : Edited may g g' := by
  rw [same]
  exact refl g

theorem trans (first : Edited may g g') (second : Edited may g' g'') : Edited may g g'' := by
  constructor
  · intro name
    rcases second.values name with same | changed
    · rw [same]
      exact first.values name
    · exact .inr changed
  · exact second.phantoms.trans first.phantoms

theorem mono {more : Edit → Prop} (wider : ∀ edit, may edit → more edit)
    (edited : Edited may g g') : Edited more g g' := by
  refine ⟨fun name => ?_, edited.phantoms⟩
  rcases edited.values name with same | ⟨allowed, here⟩ | ⟨allowed, gone⟩
  · exact .inl same
  · exact .inr (.inl ⟨wider _ allowed, here⟩)
  · exact .inr (.inr ⟨wider _ allowed, gone⟩)

theorem set (g : Globals) {name : String} (value : String) (allowed : may (.set name)) :
    Edited may g (g.set name value) := by
  refine ⟨fun other => ?_, rfl⟩
  rw [get?_set]
  by_cases same : other = name
  · rw [if_pos same, same]
    exact .inr (.inl ⟨allowed, rfl⟩)
  · rw [if_neg same]
    exact .inl rfl

theorem remove (g : Globals) {name : String} (allowed : may (.remove name)) :
    Edited may g (g.remove name) := by
  constructor
  · intro other
    rw [get?_remove]
    by_cases same : other = name
    · rw [if_pos same, same]
      exact .inr (.inr ⟨allowed, rfl⟩)
    · rw [if_neg same]
      exact .inl rfl
  · unfold Globals.remove
    split <;> rfl

end Edited

end Globals

/-! ### What commands are allowed -/

/-- The globals that a builtin command sets or removes, by what its arguments say. -/
def Builtin.MayEdit (arguments : String) : Builtin → Edit → Prop
  | setVariable, .set name => ∃ value, Arguments.named? arguments = some (name, value)
  | math, .set name => (Text.words arguments).head? = some name
  | counter, .set name => name = "c"
  | deleteVariable, .remove name => name = Text.firstWord arguments
  | random, .remove name => name = "r"
  | save, .remove name => name = "s"
  | shift, .remove name =>
    Text.lowerPlain (Text.firstWord arguments) ≠ "local" ∧ ∃ n : Nat, name = toString n
  | _, _ => False

/-- The globals that a command may change. Conditionals and custom commands may also change what the
command may change whose keyword begins their arguments. -/
inductive Action.MayEdit (table : CommandTable) : Action → List Char → Edit → Prop
  | named {command : Builtin} {arguments : List Char} {edit : Edit}
      (names : command.MayEdit (String.ofList arguments) edit) :
      MayEdit table (.builtin command) arguments edit
  | tail {command : Builtin} {line keyword arguments : List Char} {action : Action} {edit : Edit}
      (conditional : command.isConditional = true)
      (split : Arguments.splitLine? (trimChars line) = some (keyword, arguments))
      (found : table.get? (String.ofList keyword) = some action)
      (inner : MayEdit table action arguments edit) : MayEdit table (.builtin command) line edit
  | asked {handler : Handler} {arguments : List Char} {name : String} {value : Value}
      (asks : .setSpecial name value ∈ (handler (String.ofList arguments)).1) :
      MayEdit table (.custom handler) arguments (.remove name)
  | handed {handler : Handler} {line keyword arguments : List Char} {action : Action} {edit : Edit}
      (split : Arguments.splitLine? (trimChars line) = some (keyword, arguments))
      (found : table.get? (String.ofList keyword) = some action)
      (inner : MayEdit table action arguments edit) : MayEdit table (.custom handler) line edit

variable {σ : Type} {wake : Wake} {may : Edit → Prop}

/-! ### What commands do -/

namespace Run

/-- The globals are as they were, except for the edits that are allowed. -/
def Edits (may : Edit → Prop) (r r' : Run σ) : Prop :=
  r.world.globals.Edited may r'.world.globals

theorem Edits.of_keeps {parts : List Part} {r r' : Run σ} (kept : Keeps parts r r')
    (aside : .globals ∉ parts) : Edits may r r' := .of_eq (kept .globals aside)

theorem Edits.setGlobal {r r' : Run σ} {name : String} {value : Value} (allowed : may (.set name))
    (done : r.setGlobal name value = .ok r') : Edits may r r' := by
  simp only [Run.setGlobal, Variables.setGlobal, bind, Except.bind, pure, Except.pure] at done
  split at done
  · cases done
  · next globals set =>
    split at set
    · cases set
    · cases set
      cases done
      exact .set _ _ allowed

theorem Edits.removeGlobal (r : Run σ) {name : String} (allowed : may (.remove name)) :
    Edits may r (r.removeGlobal name) := by
  unfold Edits
  rw [removeGlobal_globals]
  exact .remove _ allowed

theorem Edits.setSpecial (r : Run σ) {name : String} (special : Special)
    (allowed : may (.remove name)) : Edits may r (r.setSpecial name special) :=
  Edits.removeGlobal r allowed

end Run

namespace Commands

open Run

variable (r : Run σ) (arguments : String)

theorem assign_edits {name : String} (value : Value) (allowed : may (.set name)) :
    Edits may r (attempt r (r.setGlobal name value)).1 := by
  cases done : r.setGlobal name value with
  | error f => exact .refl _
  | ok r' => exact .setGlobal allowed done

theorem setVariable_edits :
    Edits (Builtin.setVariable.MayEdit arguments) r (setVariable r arguments).1 := by
  unfold setVariable
  split
  · exact .refl _
  · next name value named =>
    have traced : Edits (Builtin.setVariable.MayEdit arguments) r
        (r.trace 1 ("setVariable: " ++ name ++ "=" ++ value)) :=
      .of_keeps (trace_keeps r _ _) (by decide)
    exact traced.trans (assign_edits _ _ ⟨value, named⟩)

theorem deleteVariable_edits :
    Edits (Builtin.deleteVariable.MayEdit arguments) r (deleteVariable r arguments).1 := by
  unfold deleteVariable
  dsimp only
  split
  · exact .refl _
  · refine Edits.removeGlobal (r.setVars (r.script.vars.deleteSpecial (firstWord arguments))) ?_
    exact rfl

theorem random_edits : Edits (Builtin.random.MayEdit arguments) r (random r arguments).1 := by
  unfold random
  split
  · exact .refl _
  · split
    · exact .refl _
    · exact .refl _
    · split
      · exact .refl _
      · next low high _ _ _ =>
        refine .setSpecial { r with script := { r.script with
          random := (Random.inRange low high r.script.random).2 } } _ ?_
        exact rfl

/-- A timer is only made under a name that no global has. -/
theorem timer_edits : Edits may r (timer r arguments).1 := by
  unfold timer
  split
  · exact .refl _
  · next action name? _ =>
    dsimp only
    generalize name?.getD timerName = name
    split
    · exact .refl _
    · next vacant =>
      split
      · exact .refl _
      · next missing _ =>
        have absent : r.world.globals.values.contains name = false := by
          rw [missing, Variables.exists?, Globals.contains] at vacant
          simp_all
        have same : r.removeGlobal name = r := by
          rw [Run.removeGlobal, absent]
          rfl
        refine .of_eq ?_
        rw [Run.setSpecial, same]
        rfl
      · exact .refl _
      · exact .refl _
      all_goals exact .refl _

theorem shiftFrom_edits {positions : Positions σ}
    (set : ∀ (r : Run σ) (n : Nat) text, Edits may r (positions.set r (toString n) text))
    (fuel position : Nat) (moved : List String) (r : Run σ) :
    Edits may r (shiftFrom positions fuel position moved r).1 := by
  induction fuel generalizing position moved r with
  | zero => exact .refl _
  | succ fuel ih =>
    unfold shiftFrom
    dsimp only
    split
    · split
      · exact .refl _
      · exact (set r position _).trans (ih _ _ _)
    · exact (set r 0 _).trans (set _ position _)

theorem save_edits : Edits (Builtin.save.MayEdit arguments) r (save r arguments).1 := by
  refine .setSpecial r _ ?_
  exact rfl

/-- Only positions that answer to the same names as globals evict any. -/
theorem shift_edits [Client σ] : Edits (Builtin.shift.MayEdit arguments) r (shift r arguments).1 := by
  unfold shift
  dsimp only
  split
  · exact shiftFrom_edits (fun r n text => .of_keeps (setLocal_keeps r _ _) (by decide)) _ _ _ r
  · next shared =>
    exact shiftFrom_edits (fun r n text => .setSpecial r _ ⟨shared, n, rfl⟩) _ _ _ r

section Client

variable [Client σ]

theorem operate_edits {target : String} (allowed : may (.set target)) (words : List String) :
    Edits may r (operate r target words).1 := by
  unfold operate
  split
  · exact .refl _
  · dsimp only
    split
    · exact .refl _
    · split
      · exact assign_edits r _ allowed
      · split
        · exact .refl _
        · split
          · exact .refl _
          · next x _ _ z _ =>
            have traced : Edits may r (r.trace 1
                ("math " ++ target ++ ": " ++ Number.display x ++ " -> " ++ Number.display z)) :=
              .of_keeps (trace_keeps r _ _) (by decide)
            exact traced.trans (assign_edits _ _ allowed)

theorem math_edits : Edits (Builtin.math.MayEdit arguments) r (math r arguments).1 := by
  unfold math
  split
  · exact .refl _
  · next words =>
    apply operate_edits
    rw [Builtin.MayEdit, words]
    rfl

theorem counter_edits : Edits (Builtin.counter.MayEdit arguments) r (counter r arguments).1 := by
  unfold counter
  split
  · exact .refl _
  · apply operate_edits
    exact rfl

theorem perform_edits (command : Builtin) :
    Edits (command.MayEdit arguments) r (perform r arguments command).1 := by
  by_cases aside : .globals ∉ command.touches
  · exact .of_keeps (perform_keeps r arguments command) aside
  · cases command with
    | counter => exact counter_edits r arguments
    | deleteVariable => exact deleteVariable_edits r arguments
    | math => exact math_edits r arguments
    | random => exact random_edits r arguments
    | save => exact save_edits r arguments
    | setVariable => exact setVariable_edits r arguments
    | shift => exact shift_edits r arguments
    | timer => exact timer_edits r arguments
    | _ => exact absurd (by simp [Builtin.touches]) aside

end Client

end Commands

/-! ### Lines within a line -/

variable [Client σ]

namespace Run

theorem grant_edits {r r' : Run σ} {request : Request}
    (allowed : ∀ name value, request = .setSpecial name value → may (.remove name))
    (granted : r.grant request = .ok r') : Edits may r r' := by
  cases request with
  | setSpecial name value =>
    cases granted
    exact .setSpecial r _ (allowed name value rfl)
  | goto label =>
    obtain ⟨_, _, _, kept⟩ := goto_ok granted
    exact .of_keeps kept (by decide)
  | trace level text =>
    cases granted
    exact .of_keeps (trace_keeps r _ _) (by decide)
  | _ =>
    cases granted
    exact .refl _

theorem grantAll_edits {requests : List Request}
    (allowed : ∀ name value, .setSpecial name value ∈ requests → may (.remove name)) (r : Run σ) :
    Edits may r (r.grantAll requests).1 := by
  induction requests generalizing r with
  | nil => exact .refl _
  | cons request rest ih =>
    have later : ∀ r : Run σ, Edits may r (r.grantAll rest).1 :=
      ih fun name value asked => allowed name value (List.mem_cons_of_mem _ asked)
    unfold grantAll
    split
    · next q granted =>
      have first : Edits may r q :=
        grant_edits (fun name value same => allowed name value (same ▸ List.mem_cons_self)) granted
      exact first.trans (later q)
    · exact .refl _

/-- What executing a line edits is what its command edits. -/
theorem execute_edits {table : CommandTable} {line : List Char}
    (entered : ∀ (q : Run σ) (keyword arguments : List Char) (action : Action),
      Arguments.splitLine? (trimChars line) = some (keyword, arguments) →
      table.get? (String.ofList keyword) = some action →
      Edits may q (action.run table q arguments).1) (r : Run σ) :
    Edits may r (r.execute table line).1 := by
  have shown : Edits may r (r.shown line) := .of_keeps (trace_keeps r _ _) (by decide)
  cases split : Arguments.splitLine? (trimChars line) with
  | none =>
    rw [execute_of_split_none split]
    exact .refl _
  | some parts =>
    obtain ⟨keyword, arguments⟩ := parts
    cases found : table.get? (String.ofList keyword) with
    | none =>
      rw [execute_of_split_unknown split found]
      exact shown
    | some action =>
      rw [execute_of_split_some split found]
      exact shown.trans (entered _ keyword arguments action split found)

end Run

/-- Each tail is shorter than the line that it stands in, so the induction is on the length. -/
theorem Action.run_edits (table : CommandTable) (arguments : List Char) (r : Run σ)
    (action : Action) : Run.Edits (action.MayEdit table arguments) r
      (action.run table r arguments).1 := by
  induction length : arguments.length using Nat.strong_induction_on
    generalizing arguments r action with
  | _ n ih =>
    subst length
    have shorter : ∀ {keyword rest : List Char},
        Arguments.splitLine? (trimChars arguments) = some (keyword, rest) →
        rest.length < arguments.length := by
      intro keyword rest split
      exact Nat.lt_of_lt_of_le (Arguments.length_lt_of_splitLine? split)
        (Command.length_trimChars_le arguments)
    -- A conditional whose tail is executed, whatever it has done before.
    have tail : ∀ (command : Builtin), command.isConditional = true → ∀ q : Run σ,
        q.world.globals = r.world.globals →
        Run.Edits (Action.MayEdit table (.builtin command) arguments) r
          (q.execute table arguments).1 := by
      intro command conditional q same
      refine Globals.Edited.trans (.of_eq same) (Run.execute_edits ?_ q)
      intro q keyword rest inner split found
      exact (ih _ (shorter split) rest q inner rfl).mono fun _ => .tail conditional split found
    cases action with
    | builtin command =>
      have performed : Run.Edits (Action.MayEdit table (.builtin command) arguments) r
          (Commands.perform r (String.ofList arguments) command).1 :=
        (Commands.perform_edits r (String.ofList arguments) command).mono fun _ => .named
      cases command with
      | ifSet digit =>
        simp only [Action.run]
        split
        · exact tail _ rfl _ rfl
        · exact .refl _
      | otherwise =>
        simp only [Action.run]
        split
        · exact .refl _
        · exact tail _ rfl _ rfl
      | _ => exact performed
    | custom handler =>
      have granted : Run.Edits (Action.MayEdit table (.custom handler) arguments) r
          (r.grantAll (handler (String.ofList arguments)).1).1 :=
        Run.grantAll_edits (fun _ _ => .asked) r
      simp only [Action.run]
      split
      · next answer =>
        rw [answer] at granted
        exact granted
      · next q answer =>
        rw [answer] at granted
        cases (handler (String.ofList arguments)).2.outcome? with
        | some outcome => exact granted
        | none =>
          refine granted.trans (Run.execute_edits ?_ q)
          intro q keyword rest inner split found
          exact (ih _ (shorter split) rest q inner rfl).mono fun _ => .handed split found

/-! ### Until the next command -/

namespace Engine

/-- The script at an index executes a command, whatever it is about to do. -/
def executed (e : Engine σ) (i : Nat) (action : Action) (arguments : List Char) : Engine σ :=
  match e.scripts[i]? with
  | some s =>
    let r := Run.conclude (action.run e.table ⟨s, e.world⟩ arguments)
    { e with world := r.world, scripts := e.scripts.set i r.script }
  | none => e

/-- A step that executes a line enters the command of its keyword. -/
theorem moved_eq_executed {e : Engine σ} {i : Nat} {s : Script} {q : Run σ} {line : String}
    {keyword arguments : List Char} {action : Action} (found : e.scripts[i]? = some s)
    (turn : Run.turn? ⟨s, e.world⟩ wake = some (.execute q line))
    (split : Arguments.splitLine? (trimChars line.toList) = some (keyword, arguments))
    (known : e.table.get? (String.ofList keyword) = some action) :
    e.moved (.step i wake) = Engine.executed { e with
      world := (q.shown line.toList).world
      scripts := e.scripts.set i (q.shown line.toList).script } i action arguments := by
  obtain ⟨within, _⟩ := List.getElem?_eq_some_iff.mp found
  have stepped : Run.step? e.table wake ⟨s, e.world⟩ =
      some (Run.conclude (action.run e.table (q.shown line.toList) arguments)) := by
    rw [Run.step?, turn, Option.map_some, Run.Turn.complete, Run.execute_of_split_some split known]
  rw [moved_step found stepped, executed]
  simp only [List.getElem?_set_self within, List.set_set]

theorem executed_edits (e : Engine σ) (i : Nat) (action : Action) (arguments : List Char) :
    e.world.globals.Edited (action.MayEdit e.table arguments)
      (e.executed i action arguments).world.globals := by
  unfold executed
  split
  · next s found =>
    have ran := action.run_edits e.table arguments ⟨s, e.world⟩
    have concluded : Run.Edits (action.MayEdit e.table arguments) _
        (Run.conclude (action.run e.table ⟨s, e.world⟩ arguments)) :=
      .of_keeps (Run.conclude_keeps _ _) (by decide)
    exact ran.trans concluded
  · exact .refl _

theorem globals_of_silent {e : Engine σ} {i : Nat} (silent : dispatches i e (.step i wake) = []) :
    (e.moved (.step i wake)).world.globals = e.world.globals := by
  cases taken : e.stepAt? i wake with
  | none => simp only [moved, taken, Option.getD_none]
  | some e' =>
    obtain ⟨s, r, found, stepped, rfl⟩ := stepAt_some taken
    rw [moved_step found stepped]
    rcases Run.step_cases stepped with turn | ⟨q, line, turn, _⟩
    · exact Run.ended_keeps turn .globals (by decide)
    · rw [dispatches_step found] at silent
      have none := Run.dispatches_none.mp (Option.toList_eq_nil_iff.mp silent)
      exact absurd turn (none q line)

/-- Whether nobody but the script at an index writes to the globals. -/
def Alone (i : Nat) (e : Engine σ) (m : Move σ) : Prop :=
  m.isStep i = false → (e.moved m).world.globals = e.world.globals

theorem globals_after_silent {i : Nat} {e : Engine σ} {moves : List (Move σ)}
    (silent : along (dispatches i) e moves = []) (alone : e.Each (Alone i) moves) :
    (e.after moves).world.globals = e.world.globals := by
  induction moves generalizing e with
  | nil => rfl
  | cons m rest ih =>
    obtain ⟨first, others⟩ := alone
    obtain ⟨quiet, later⟩ := List.append_eq_nil_iff.mp silent
    rw [after_cons, ih later others]
    rcases m.step_or i with ⟨wake, rfl⟩ | other
    · exact globals_of_silent quiet
    · exact first other

/-- Globals are touched only where a command says so. Whatever command a script executes, with
whatever arguments and in whatever state, until it executes another line and as long as nobody else
writes to the globals, they differ from those before only as the command may change them. It does
not matter whether the command waits meanwhile, is interrupted, or ends the script. A step that
executes a line executes the command of its keyword in this way. -/
theorem globals_edited_as_named (e : Engine σ) (i : Nat) (action : Action) (arguments : List Char) :
    (∀ moves : List (Move σ), along (dispatches i) (e.executed i action arguments) moves = [] →
      (e.executed i action arguments).Each (Alone i) moves →
      e.world.globals.Edited (action.MayEdit e.table arguments)
        ((e.executed i action arguments).after moves).world.globals) ∧
    (∀ {wake : Wake} {s : Script} {q : Run σ} {line : String} {keyword : List Char},
      e.scripts[i]? = some s → Run.turn? ⟨s, e.world⟩ wake = some (.execute q line) →
      Arguments.splitLine? (trimChars line.toList) = some (keyword, arguments) →
      e.table.get? (String.ofList keyword) = some action →
      e.moved (.step i wake) = Engine.executed { e with
        world := (q.shown line.toList).world
        scripts := e.scripts.set i (q.shown line.toList).script } i action arguments) := by
  refine ⟨fun moves silent alone => ?_, moved_eq_executed⟩
  rw [globals_after_silent silent alone]
  exact executed_edits e i action arguments

def hoarding : Engine MemoryClient :=
  (plain {}).after [.start "hoarding" "exit" ["gem"],
    .globals { values := .ofList [("c", "7"), ("s", "old")] }]

/-- The script is stopped right after the command and ends. -/
def raid : List (Move MemoryClient) :=
  [.publish .prompt, .stop 0, .step 0 .message, .step 0 .message]

theorem globals_edited_as_named_hoarding :
    let e := hoarding.executed 0 (.builtin (.ifSet 1)) "save loot".toList
    (along (dispatches 0) e raid = [] ∧ e.Each (Alone 0) raid) ∧
      hoarding.world.globals.get? "s" = some "old" ∧ (e.after raid).world.globals.get? "s" = none ∧
      ∀ name, name ≠ "s" → (e.after raid).world.globals.get? name =
        hoarding.world.globals.get? name := by
  have silent : along (dispatches 0)
      (hoarding.executed 0 (.builtin (.ifSet 1)) "save loot".toList) raid = [] := by
    decide +kernel
  have alone : (hoarding.executed 0 (.builtin (.ifSet 1)) "save loot".toList).Each (Alone 0) raid :=
    ⟨fun _ => rfl, fun _ => rfl, nofun, nofun, trivial⟩
  have edited := (globals_edited_as_named hoarding 0 (.builtin (.ifSet 1)) "save loot".toList).1
    raid silent alone
  have facts : Arguments.splitLine? (trimChars "save loot".toList) =
      some ("save".toList, "loot".toList) ∧ Text.lower "save" = "save" ∧
      hoarding.world.globals.get? "s" = some "old" ∧
      ((hoarding.executed 0 (.builtin (.ifSet 1)) "save loot".toList).after raid).world.globals.get?
        "s" = none := by
    decide +kernel
  obtain ⟨split, lowered, before, after⟩ := facts
  have saves : ∀ command : Builtin, "save" = command.keyword → command = .save := by
    intro command
    cases command with
    | ifSet digit => revert digit; decide
    | _ => decide
  have only : ∀ edit, Action.MayEdit .standard (.builtin (.ifSet 1)) "save loot".toList edit →
      edit = .remove "s" := by
    intro edit may
    cases may with
    | named names => cases names
    | tail _ split' found inner =>
      cases split.symm.trans split'
      obtain ⟨command, rfl, same⟩ := CommandTable.standard_get found
      rw [String.ofList_toList, lowered] at same
      cases saves command same
      cases inner with
      | named names =>
        cases edit with
        | set name => cases names
        | remove name => exact congrArg Edit.remove names
      | tail conditional => cases conditional
  refine ⟨⟨silent, alone⟩, before, after, fun name other => ?_⟩
  rcases edited.values name with same | ⟨may, _⟩ | ⟨may, _⟩
  · exact same
  · cases only _ may
  · exact absurd (Edit.remove.inj (only _ may)) other

end Engine

end Questline
