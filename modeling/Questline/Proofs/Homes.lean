import Questline.Proofs.Failures
import Questline.Proofs.Moves

/-! A variable has one home. No name is a special variable and a global at once, and the live values
of the client stay where they are, whatever names a script chooses. Each command that writes
variables checks a name or evicts the global before it writes. -/
namespace Questline

namespace Globals

theorem get?_set (g : Globals) (name other value : String) :
    (g.set name value).get? other = if other = name then some value else g.get? other :=
  Dict.get?_insert _ _ _ _

theorem get?_remove (g : Globals) (name other : String) :
    (g.remove name).get? other = if other = name then none else g.get? other := by
  unfold remove
  split
  · exact Dict.get?_erase _ _ _
  · next absent =>
    split
    · next same =>
      rw [same]
      simpa [get?, Dict.contains] using absent
    · rfl

end Globals

/-- A name that the client has not taken for one of its live values. -/
def IsOwnName (name : String) : Prop := ∀ key : LiveValue, key.name ≠ name

instance (name : String) : Decidable (IsOwnName name) :=
  decidable_of_iff (∀ key ∈ LiveValue.all, key.name ≠ name)
    ⟨fun others key => others key (by cases key <;> decide), fun others key _ => others key⟩

/-- The names of positions are numerals, and no live value is called by a numeral. -/
theorem isOwnName_toString (n : Nat) : IsOwnName (toString n) := by
  intro key same
  have digits : key.name.toList.all Char.isDigit := by
    rw [List.all_eq_true]
    intro c member
    rw [same, show (toString n).toList = Nat.toDigits 10 n from String.toList_ofList] at member
    exact Nat.isDigit_of_mem_toDigits (by omega) (by omega) member
  revert digits
  cases key <;> decide

namespace Variables

structure Housed (v : Variables) (g : Globals) : Prop where
  apart (name : String) : v.isSpecial name → g.get? name = none
  live (key : LiveValue) : v.specials.get? key.name = some (.live key)

variable {v : Variables} {g : Globals}

theorem isSpecial_setSpecial (v : Variables) (name other : String) (special : Special) :
    (v.setSpecial name special).isSpecial other = (decide (other = name) || v.isSpecial other) := by
  simp only [isSpecial, setSpecial, Dict.contains, Dict.get?_insert]
  split <;> simp_all

namespace Housed

theorem insert (housed : v.Housed g) {name : String} (own : IsOwnName name)
    (free : g.get? name = none) (special : Special) : (v.setSpecial name special).Housed g := by
  constructor
  · intro other known
    rw [isSpecial_setSpecial, Bool.or_eq_true, decide_eq_true_iff] at known
    rcases known with same | known
    · rw [same, free]
    · exact housed.apart other known
  · intro key
    rw [setSpecial, Dict.get?_insert, if_neg (own key)]
    exact housed.live key

theorem remove (housed : v.Housed g) (name : String) : v.Housed (g.remove name) := by
  refine ⟨fun other known => ?_, housed.live⟩
  rw [Globals.get?_remove]
  split
  · rfl
  · exact housed.apart other known

theorem setSpecial (housed : v.Housed g) {name : String} (own : IsOwnName name)
    (special : Special) : (v.setSpecial name special).Housed (g.remove name) := by
  apply (housed.remove name).insert own
  rw [Globals.get?_remove, if_pos rfl]

theorem setGlobal (housed : v.Housed g) {g' : Globals} {name : String} {value : Value}
    (done : v.setGlobal g name value = .ok g') : v.Housed g' := by
  unfold Variables.setGlobal at done
  split at done
  · cases done
  · next absent =>
    cases done
    refine ⟨fun other known => ?_, housed.live⟩
    have different : other ≠ name := by
      rintro rfl
      exact absent known
    rw [Globals.get?_set, if_neg different]
    exact housed.apart other known

theorem deleteSpecial (housed : v.Housed g) (name : String) : (v.deleteSpecial name).Housed g := by
  unfold Variables.deleteSpecial
  split
  · exact housed
  · exact housed
  · next special mortal found =>
    constructor
    · intro other known
      apply housed.apart other
      simp only [isSpecial, Dict.contains, Dict.get?_erase] at known ⊢
      split at known
      · cases known
      · exact known
    · intro key
      rw [Dict.get?_erase]
      split
      · next same =>
        have here := housed.live key
        rw [same, found] at here
        exact absurd (Option.some.inj here) (mortal key)
      · exact housed.live key

theorem setLocal (housed : v.Housed g) (name : String) (value : Value) :
    (v.setLocal name value).Housed g := ⟨housed.apart, housed.live⟩

theorem get_live (housed : v.Housed g) (around : Surroundings) (key : LiveValue) :
    v.get? around key.name = some ((around.live key).getD key.unset) := by
  simp only [Variables.get?, housed.live key, readSpecial]

end Housed

theorem initial_housed (free : ∀ key : LiveValue, g.get? key.name = none) :
    Variables.initial.Housed g := by
  constructor
  · intro name known
    obtain ⟨special, found⟩ := Option.isSome_iff_exists.mp known
    obtain ⟨key, _, same⟩ := List.mem_map.mp (Dict.mem_of_get_ofList found)
    rw [← (Prod.mk.inj same).1]
    exact free key
  · intro key
    cases key <;> rfl

end Variables

theorem bindArguments_housed {v : Variables} {g : Globals} (arguments : List String)
    (housed : v.Housed g) :
    (Script.bindArguments v arguments).Housed
      ((Script.argumentBindings arguments).foldl (fun g b => g.remove b.1) g) := by
  have own : ∀ b ∈ Script.argumentBindings arguments, IsOwnName b.1 := by
    intro b member
    rcases List.mem_cons.mp member with rfl | member
    · exact (by decide : IsOwnName "0")
    · obtain ⟨i, _, rfl⟩ := List.mem_map.mp member
      exact isOwnName_toString _
  unfold Script.bindArguments
  generalize Script.argumentBindings arguments = bindings at own
  induction bindings generalizing v g with
  | nil => exact housed
  | cons b rest ih =>
    obtain ⟨first, others⟩ := List.forall_mem_cons.mp own
    exact ih ((housed.setLocal _ _).setSpecial first _) others

/-! ### Commands -/

variable {σ : Type} {wake : Wake}

namespace Run

def Housed (r : Run σ) : Prop := r.script.vars.Housed r.world.globals

variable {r r' : Run σ}

theorem Housed.of_keeps (housed : r.Housed) {parts : List Part} (kept : Keeps parts r r')
    (aside : .specials ∉ parts ∧ .globals ∉ parts) : r'.Housed := by
  have specials : r'.script.vars.specials = r.script.vars.specials := kept .specials aside.1
  have globals : r'.world.globals = r.world.globals := kept .globals aside.2
  constructor
  · intro name known
    rw [Variables.isSpecial, specials] at known
    rw [globals]
    exact housed.apart name known
  · rw [specials]
    exact housed.live

theorem removeGlobal_globals (r : Run σ) (name : String) :
    (r.removeGlobal name).world.globals = r.world.globals.remove name := by
  unfold removeGlobal
  split
  · rfl
  · next absent => rw [Globals.remove, if_neg absent]

theorem Housed.removeGlobal (housed : r.Housed) (name : String) : (r.removeGlobal name).Housed := by
  have vars : (r.removeGlobal name).script.vars = r.script.vars := by
    unfold Run.removeGlobal
    split <;> rfl
  rw [Housed, vars, removeGlobal_globals]
  exact housed.remove name

theorem Housed.setSpecial (housed : r.Housed) {name : String} (own : IsOwnName name)
    (special : Special) : (r.setSpecial name special).Housed := by
  change Variables.Housed _ (r.removeGlobal name).world.globals
  rw [removeGlobal_globals]
  exact Variables.Housed.setSpecial housed own special

theorem Housed.setGlobal (housed : r.Housed) {name : String} {value : Value}
    (done : r.setGlobal name value = .ok r') : r'.Housed := by
  simp only [Run.setGlobal, bind, Except.bind, pure, Except.pure] at done
  split at done
  · cases done
  · next globals set =>
    cases done
    exact Variables.Housed.setGlobal housed set

theorem Housed.trace (housed : r.Housed) (level : Nat) (text : String) :
    (r.trace level text).Housed :=
  housed.of_keeps (trace_keeps r level text) (by decide)

end Run

namespace Commands

open Run

variable {r : Run σ} (arguments : String)

theorem assign_housed (housed : r.Housed) (name : String) (value : Value) :
    (attempt r (r.setGlobal name value)).1.Housed := by
  cases done : r.setGlobal name value with
  | ok r' => exact housed.setGlobal done
  | error f => exact housed

theorem setVariable_housed (housed : r.Housed) : (setVariable r arguments).1.Housed := by
  unfold setVariable
  split
  · exact housed
  · exact assign_housed (housed.trace _ _) _ _

theorem deleteVariable_housed (housed : r.Housed) : (deleteVariable r arguments).1.Housed := by
  unfold deleteVariable
  dsimp only
  split
  · exact housed
  · apply Housed.removeGlobal
    exact Variables.Housed.deleteSpecial housed _

theorem random_housed (housed : r.Housed) : (random r arguments).1.Housed := by
  have own : IsOwnName randomName := by decide
  unfold random
  split
  · exact housed
  · split
    · exact housed
    · exact housed
    · split
      · exact housed
      · refine Housed.setSpecial ?_ own _
        exact housed

theorem save_housed (housed : r.Housed) : (save r arguments).1.Housed := by
  have own : IsOwnName saveName := by decide
  exact Housed.setSpecial housed own _

/-- A timer is set anew only under its own name, which is then not that of a live value. -/
theorem isOwnName_of_timer (housed : r.Housed) {name : String} {t : Timer}
    (found : r.script.vars.timer? name = some t) : IsOwnName name ∧ r.script.vars.isSpecial name := by
  unfold Variables.timer? at found
  split at found
  · next special =>
    refine ⟨fun key same => ?_, ?_⟩
    · have := housed.live key
      rw [same, special] at this
      cases this
    · rw [Variables.isSpecial, Dict.contains, special]
      rfl
  · cases found

theorem retime_housed (housed : r.Housed) {name : String} {t : Timer}
    (found : r.script.vars.timer? name = some t) (special : Special) :
    (r.setVars (r.script.vars.setSpecial name special)).Housed := by
  obtain ⟨own, known⟩ := isOwnName_of_timer housed found
  exact Variables.Housed.insert housed own (housed.apart name known) special

theorem timer_housed (housed : r.Housed) : (timer r arguments).1.Housed := by
  unfold timer
  split
  · exact housed
  · next action name? _ =>
    dsimp only
    generalize name?.getD timerName = name
    split
    · exact housed
    · next vacant =>
      split
      · next found _ => exact retime_housed housed found _
      · next missing _ =>
        apply housed.setSpecial
        intro key same
        have known : r.script.vars.isSpecial name := by
          rw [← same, Variables.isSpecial, Dict.contains, housed.live key]
          rfl
        apply vacant
        rw [missing, Variables.exists?, show r.script.vars.specials.contains name from known]
        rfl
      · next found _ => exact retime_housed housed found _
      · next found _ => exact retime_housed housed found _
      all_goals exact housed

theorem shiftFrom_housed {positions : Positions σ}
    (kept : ∀ (r : Run σ) name text, r.Housed → IsOwnName name → (positions.set r name text).Housed)
    (fuel position : Nat) (moved : List String) (housed : r.Housed) :
    (shiftFrom positions fuel position moved r).1.Housed := by
  induction fuel generalizing position moved r with
  | zero => exact housed
  | succ fuel ih =>
    unfold shiftFrom
    dsimp only
    split
    · split
      · exact housed
      · exact ih _ _ (kept r _ _ housed (isOwnName_toString _))
    · exact kept _ _ _ (kept r _ _ housed (by decide)) (isOwnName_toString _)

variable [Client σ]

theorem operate_housed (housed : r.Housed) (target : String) (words : List String) :
    (operate r target words).1.Housed := by
  unfold operate
  split
  · exact housed
  · dsimp only
    split
    · exact housed
    · split
      · exact assign_housed housed _ _
      · split
        · exact housed
        · split
          · exact housed
          · exact assign_housed (housed.trace _ _) _ _

theorem math_housed (housed : r.Housed) : (math r arguments).1.Housed := by
  unfold math
  split
  · exact housed
  · exact operate_housed housed _ _

theorem counter_housed (housed : r.Housed) : (counter r arguments).1.Housed := by
  unfold counter
  split
  · exact housed
  · exact operate_housed housed _ _

theorem shift_housed (housed : r.Housed) : (shift r arguments).1.Housed := by
  unfold shift
  dsimp only
  split
  · exact shiftFrom_housed (fun r name _ housed _ =>
      housed.of_keeps (setLocal_keeps r name _) (by decide)) _ _ _ housed
  · exact shiftFrom_housed (fun _ _ _ housed own => housed.setSpecial own _) _ _ _ housed

theorem perform_housed (housed : r.Housed) (command : Builtin) :
    (perform r arguments command).1.Housed := by
  by_cases aside : .specials ∉ command.touches ∧ .globals ∉ command.touches
  · exact housed.of_keeps (perform_keeps r arguments command) aside
  · unfold perform
    cases command with
    | counter => exact counter_housed arguments housed
    | deleteVariable => exact deleteVariable_housed arguments housed
    | math => exact math_housed arguments housed
    | random => exact random_housed arguments housed
    | save => exact save_housed arguments housed
    | setVariable => exact setVariable_housed arguments housed
    | shift => exact shift_housed arguments housed
    | timer => exact timer_housed arguments housed
    | _ => exact absurd (by simp [Builtin.touches]) aside

end Commands

/-! ### Runs -/

theorem Run.step_housed [Client σ] {r r' : Run σ} (stepped : r.step? .standard wake = some r')
    (housed : r.Housed) : r'.Housed := by
  rcases step_cases stepped with turn | ⟨q, line, turn, rfl⟩
  · exact housed.of_keeps (ended_keeps turn) (by decide)
  · have ready := housed.of_keeps (execute_turn turn).2.2.2.2 (by decide)
    have led := ready.of_keeps (dispatch_quiet (unaided_standard q line.toList)).kept (by decide)
    rcases execute_cases .standard q line.toList with
      ⟨q', command, arguments, found, done⟩ | ⟨q', outcome, found, done⟩
    · rw [found] at led
      rw [done]
      have performed := Commands.perform_housed arguments led command
      exact performed.of_keeps (conclude_keeps _ _) (by decide)
    · rw [found] at led
      rw [done]
      exact led.of_keeps (conclude_keeps _ _) (by decide)

/-- Whether a move leaves the global variables to the scripts and starts none. -/
def Move.isPrivate : Move σ → Bool
  | globals _ | start .. => false
  | _ => true

namespace Engine

def OneHome (e : Engine σ) : Prop :=
  e.table = .standard ∧ ∃ s, e.scripts = [s] ∧ s.vars.Housed e.world.globals

theorem OneHome.address {e : Engine σ} (home : e.OneHome) {f : Script → Script}
    (made : ∀ s : Script, s.Handled (f s)) (index : Nat) : (e.address index f).OneHome := by
  obtain ⟨standard, s, only, housed⟩ := home
  refine ⟨standard, ?_⟩
  cases index with
  | zero =>
    refine ⟨f s, by simp [Engine.address, only], ?_⟩
    have before : Run.Housed ⟨s, e.world⟩ := housed
    exact before.of_keeps ((made s).keeps e.world).1 (by decide)
  | succ index => exact ⟨s, by simp [Engine.address, only], housed⟩

variable [Client σ]

theorem OneHome.moved {e : Engine σ} (home : e.OneHome) {m : Move σ} (alone : m.isPrivate) :
    (e.moved m).OneHome := by
  cases m with
  | step index wake =>
    cases taken : e.stepAt? index wake with
    | none => simpa [Engine.moved, taken] using home
    | some e' =>
      obtain ⟨standard, s, only, housed⟩ := home
      obtain ⟨s', r, found, stepped, rfl⟩ := stepAt_some taken
      simp only [Engine.moved, taken, Option.getD_some]
      -- The script that takes the step is the only one there is.
      have own : index = 0 ∧ s = s' := by
        rw [only] at found
        cases index with
        | zero => exact ⟨rfl, Option.some.inj found⟩
        | succ _ => cases found
      obtain ⟨rfl, rfl⟩ := own
      rw [standard] at stepped
      exact ⟨standard, r.script, by simp [only], Run.step_housed stepped housed⟩
  | stop index => exact home.address (fun _ => .stop) index
  | suspend index => exact home.address (fun _ => .suspend) index
  | resume index => exact home.address (fun _ => .resume) index
  | goto index label => exact home.address (fun _ => .goto label) index
  | publish event | elapse milliseconds | client client => exact home
  | globals _ | start _ _ _ => cases alone

theorem OneHome.after {e : Engine σ} (home : e.OneHome) {moves : List (Move σ)}
    (alone : ∀ m ∈ moves, m.isPrivate) : (e.after moves).OneHome := by
  induction moves generalizing e with
  | nil => exact home
  | cons m rest ih =>
    obtain ⟨first, others⟩ := List.forall_mem_cons.mp alone
    exact ih (home.moved first) others

/-- A variable has one home. Take any script that runs alone, without custom commands, on global
variables that nobody else writes and that have none of the names of live values at first. Whatever
happens, no special variable has the name of a global, and each live value is still there and reads
as the client has it, or as its default where the client has none. -/
theorem variables_have_one_home (config : Config) (world : World σ) (name : String)
    (program : Program) (arguments : List String) (moves : List (Move σ))
    (free : ∀ key : LiveValue, world.globals.get? key.name = none)
    (alone : ∀ m ∈ moves, m.isPrivate) :
    let e := (Engine.start { table := .standard, config, world } name program arguments).after moves
    ∃ s, e.scripts = [s] ∧
      (∀ name, s.vars.isSpecial name → e.world.globals.get? name = none) ∧
      ∀ key, s.vars.specials.get? key.name = some (.live key) ∧
        s.vars.get? (Run.around ⟨s, e.world⟩) key.name =
          some ((Client.live e.world.client e.world.now key).getD key.unset) := by
  have begun : (Engine.start { table := .standard, config, world } name program arguments).OneHome :=
    ⟨rfl, _, rfl, bindArguments_housed arguments (Variables.initial_housed free)⟩
  obtain ⟨_, s, only, housed⟩ := begun.after alone
  exact ⟨s, only, housed.apart, fun key => ⟨housed.live key, housed.get_live _ key⟩⟩

def cluttered : World MemoryClient where
  client := {}
  globals := { values := .ofList [("c", "7"), ("s", "old")] }

/-- Saves a text where there is a global, and tries to delete and to set what the client owns. -/
def squatter : Program := .parse "save loot\ndeletevariable health\nsetvariable health 5"

theorem variables_have_one_home_squatter :
    let e := (Engine.start { table := .standard, config := {}, world := cluttered } "squatter"
      squatter []).after (List.replicate 6 (.step 0 .message))
    ∃ s, e.scripts = [s] ∧ s.isFinished ∧ s.vars.isSpecial "s" ∧
      e.world.globals.get? "s" = none ∧ e.world.globals.get? "c" = some "7" ∧
      s.vars.specials.get? "health" = some (.live .health) := by
  obtain ⟨s, only, apart, live⟩ := variables_have_one_home {} cluttered "squatter" squatter []
    (List.replicate 6 (.step 0 .message)) (by intro key; cases key <;> decide +kernel) (by decide)
  have facts : (Engine.after (Engine.start { table := .standard, config := {}, world := cluttered }
        "squatter" squatter []) (List.replicate 6 (.step 0 .message))).scripts.all
          (fun s => s.isFinished && s.vars.isSpecial "s") ∧
      (Engine.after (Engine.start { table := .standard, config := {}, world := cluttered }
        "squatter" squatter []) (List.replicate 6 (.step 0 .message))).world.globals.get? "c" =
          some "7" := by
    decide +kernel
  obtain ⟨fared, spared⟩ := facts
  rw [only, List.all_cons, List.all_nil, Bool.and_true, Bool.and_eq_true] at fared
  exact ⟨s, only, fared.1, fared.2, apart "s" fared.2, spared, (live .health).1⟩

end Engine

end Questline
