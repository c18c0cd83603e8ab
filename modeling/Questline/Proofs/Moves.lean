import Questline.Engine
import Questline.Proofs.Turns

/-! Everything that can happen to an engine, one move at a time: its scripts take steps, they are
controlled from outside, the game has news, time passes, and the client and the global variables
change by themselves. Every interleaving is a list of moves, so what holds for all lists holds for
every run. -/
namespace Questline

/-- What can happen to an engine with clients of type `σ`. -/
inductive Move (σ : Type) where
  /-- The script at an index takes a step, if it can be woken in this way. -/
  | step (index : Nat) (wake : Wake)
  | stop (index : Nat)
  | suspend (index : Nat)
  | resume (index : Nat)
  | goto (index : Nat) (label : String)
  | publish (event : GameEvent)
  | elapse (milliseconds : Nat)
  | client (client : σ)
  | globals (globals : Globals)
  | start (name source : String) (arguments : List String)

def Move.isStep {σ : Type} (i : Nat) : Move σ → Bool
  | step j _ => j == i
  | _ => false

theorem Move.isStep_iff {σ : Type} {i : Nat} {m : Move σ} :
    m.isStep i = true ↔ ∃ wake, m = .step i wake := by
  cases m with
  | step j wake => simp [isStep]
  | _ => simp [isStep]

theorem Move.step_or {σ : Type} (m : Move σ) (i : Nat) :
    (∃ wake, m = .step i wake) ∨ m.isStep i = false := by
  cases own : m.isStep i with
  | true => exact .inl (isStep_iff.mp own)
  | false => exact .inr rfl

inductive Script.Handled (s : Script) : Script → Prop
  | idle : Handled s s
  | stop : Handled s s.stop
  | suspend : Handled s s.suspend.2
  | resume : Handled s s.resume.2
  | goto (label : String) : Handled s (s.requestGoto label)

/-- Whoever handles a script changes its state and sends it messages, no more. -/
theorem Script.Handled.keeps {σ : Type} {s s' : Script} (handled : s.Handled s') (world : World σ) :
    Run.Keeps [.state, .position] ⟨s, world⟩ ⟨s', world⟩ ∧ s'.phase = s.phase := by
  cases handled with
  | idle => exact ⟨.refl _ _, rfl⟩
  | stop =>
    unfold Script.stop
    split <;> refine ⟨fun p outside => ?_, rfl⟩ <;> cases p <;> simp_all [Part.Same]
  | suspend =>
    unfold Script.suspend
    split <;> refine ⟨fun p outside => ?_, rfl⟩ <;> cases p <;> simp_all [Part.Same]
  | resume =>
    unfold Script.resume
    split <;> refine ⟨fun p outside => ?_, rfl⟩ <;> cases p <;> simp_all [Part.Same]
  | goto label =>
    unfold Script.requestGoto
    split <;> refine ⟨fun p outside => ?_, rfl⟩ <;> cases p <;> simp_all [Part.Same]

namespace Engine

variable {σ : Type}

def address (e : Engine σ) (index : Nat) (f : Script → Script) : Engine σ :=
  { e with scripts := e.scripts.modify index f }

theorem create_ok {config : Config} {commands : List (String × Handler)} {world : World σ}
    {e : Engine σ} (created : Engine.create config commands world = .ok e) :
    e.world = world ∧ e.scripts = [] := by
  simp only [create, bind, Except.bind, pure, Except.pure] at created
  split at created
  · cases created
  · cases created
    exact ⟨rfl, rfl⟩

theorem handled_of_address {e : Engine σ} {f : Script → Script}
    (made : ∀ s : Script, s.Handled (f s)) (index : Nat) {i : Nat} {s' : Script}
    (found : (e.address index f).scripts[i]? = some s') :
    ∃ s, e.scripts[i]? = some s ∧ s.Handled s' := by
  simp only [address, List.getElem?_modify] at found
  obtain ⟨s, before, same⟩ := Option.map_eq_some_iff.mp found
  refine ⟨s, before, ?_⟩
  subst same
  split
  · exact made s
  · exact .idle

variable [Client σ]

def moved (e : Engine σ) : Move σ → Engine σ
  | .step index wake => (e.stepAt? index wake).getD e
  | .stop index => e.address index Script.stop
  | .suspend index => e.address index fun s => s.suspend.2
  | .resume index => e.address index fun s => s.resume.2
  | .goto index label => e.address index fun s => s.requestGoto label
  | .publish event => e.publish event
  | .elapse milliseconds => e.setClock (e.world.now + milliseconds)
  | .client client => { e with world := { e.world with client } }
  | .globals globals => { e with world := { e.world with globals } }
  | .start name source arguments => e.start name (Program.parse source) arguments

def after (e : Engine σ) (moves : List (Move σ)) : Engine σ := moves.foldl moved e

/-- A property holds before, between and after moves. -/
def Throughout (p : Engine σ → Prop) (e : Engine σ) : List (Move σ) → Prop
  | [] => p e
  | m :: rest => p e ∧ Throughout p (e.moved m) rest

instance decidableThroughout (p : Engine σ → Prop) [DecidablePred p] :
    (e : Engine σ) → (moves : List (Move σ)) → Decidable (Throughout p e moves)
  | e, [] => inferInstanceAs (Decidable (p e))
  | e, m :: rest =>
    have := decidableThroughout p (e.moved m) rest
    inferInstanceAs (Decidable (p e ∧ Throughout p (e.moved m) rest))

/-- A property holds of each move together with the engine in which it is made. -/
def Each (p : Engine σ → Move σ → Prop) (e : Engine σ) : List (Move σ) → Prop
  | [] => True
  | m :: rest => p e m ∧ Each p (e.moved m) rest

/-- The engines that come about by moves from a new one, on which nobody listens yet. -/
inductive Reachable : Engine σ → Prop
  | create {config : Config} {commands : List (String × Handler)} {world : World σ} {e : Engine σ}
      (created : Engine.create config commands world = .ok e) (silent : world.stream = .empty) :
      Reachable e
  | move {e : Engine σ} (before : Reachable e) (m : Move σ) : Reachable (e.moved m)

theorem Reachable.after {e : Engine σ} (reachable : e.Reachable) (moves : List (Move σ)) :
    (e.after moves).Reachable := by
  induction moves generalizing e with
  | nil => exact reachable
  | cons m rest ih => exact ih (reachable.move m)

/-- An engine without custom commands, in its default configuration. -/
def plain (client : σ) : Engine σ := { table := .standard, config := {}, world := { client } }

theorem plain_reachable (client : σ) : (plain client).Reachable :=
  @Reachable.create σ _ {} [] { client } _ rfl rfl

theorem after_cons (e : Engine σ) (m : Move σ) (moves : List (Move σ)) :
    e.after (m :: moves) = (e.moved m).after moves := rfl

theorem Throughout.first {p : Engine σ → Prop} {e : Engine σ} {moves : List (Move σ)}
    (holds : Throughout p e moves) : p e := by
  cases moves with
  | nil => exact holds
  | cons m rest => exact holds.1

/-! ### What becomes of one script -/

/-- What a move can make of the script at an index: what a step of its own does or, if it takes
none, what somebody outside makes of it. -/
inductive Fares (e : Engine σ) (m : Move σ) (i : Nat) (s : Script) : Script → Prop
  | aside {s' : Script} (handled : s.Handled s')
      (other : ∀ wake, m = .step i wake → Run.step? e.table wake ⟨s, e.world⟩ = none) :
      Fares e m i s s'
  | step {wake : Wake} {r : Run σ} (own : m = .step i wake)
      (stepped : Run.step? e.table wake ⟨s, e.world⟩ = some r) : Fares e m i s r.script

theorem Fares.program {e : Engine σ} {m : Move σ} {i : Nat} {s s' : Script}
    (fares : e.Fares m i s s') : s'.program = s.program := by
  cases fares with
  | aside handled => exact ((handled.keeps e.world).1 .identity (by decide)).2.1
  | step _ stepped => exact Run.step_program stepped

def Begins (e : Engine σ) (s : Script) : Prop :=
  ∃ name source arguments, s = Script.create e.config name (Program.parse source) arguments

theorem stepAt_some {e e' : Engine σ} {index : Nat} {wake : Wake}
    (stepped : e.stepAt? index wake = some e') :
    ∃ s r, e.scripts[index]? = some s ∧ Run.step? e.table wake ⟨s, e.world⟩ = some r ∧
      e' = { e with world := r.world, scripts := e.scripts.set index r.script } := by
  simp only [stepAt?, Option.bind_eq_bind, Option.bind_eq_some_iff] at stepped
  obtain ⟨s, found, r, taken, made⟩ := stepped
  exact ⟨s, r, found, taken, (Option.some.inj made).symm⟩

theorem moved_step {e : Engine σ} {i : Nat} {wake : Wake} {s : Script} {r : Run σ}
    (found : e.scripts[i]? = some s) (stepped : Run.step? e.table wake ⟨s, e.world⟩ = some r) :
    e.moved (.step i wake) = { e with world := r.world, scripts := e.scripts.set i r.script } := by
  simp only [moved, stepAt?, found, stepped, Option.bind_eq_bind, Option.bind_some]
  rfl

theorem moved_stuck {e : Engine σ} {i : Nat} {wake : Wake} {s : Script}
    (found : e.scripts[i]? = some s) (stuck : Run.step? e.table wake ⟨s, e.world⟩ = none) :
    e.moved (.step i wake) = e := by
  simp only [moved, stepAt?, found, stuck, Option.bind_eq_bind, Option.bind_some]
  rfl

theorem script_step {e : Engine σ} {i : Nat} {wake : Wake} {s : Script} {r : Run σ}
    (found : e.scripts[i]? = some s) (stepped : Run.step? e.table wake ⟨s, e.world⟩ = some r) :
    (e.moved (.step i wake)).scripts[i]? = some r.script := by
  obtain ⟨within, _⟩ := List.getElem?_eq_some_iff.mp found
  rw [moved_step found stepped]
  exact List.getElem?_set_self within

theorem script_other {e : Engine σ} {i j : Nat} {wake : Wake} (different : j ≠ i) :
    (e.moved (.step j wake)).scripts[i]? = e.scripts[i]? := by
  cases taken : e.stepAt? j wake with
  | none => simp only [moved, taken, Option.getD_none]
  | some e' =>
    obtain ⟨s, r, before, stepped, rfl⟩ := stepAt_some taken
    simp only [moved, taken, Option.getD_some, List.getElem?_set_ne different]

theorem script_moved {e : Engine σ} {m : Move σ} {i : Nat} {s' : Script}
    (found : (e.moved m).scripts[i]? = some s') :
    (∃ s, e.scripts[i]? = some s ∧ e.Fares m i s s') ∨ (e.scripts[i]? = none ∧ e.Begins s') := by
  have aside : (∃ s, e.scripts[i]? = some s ∧ s.Handled s') → m.isStep i = false →
      (∃ s, e.scripts[i]? = some s ∧ e.Fares m i s s') ∨ (e.scripts[i]? = none ∧ e.Begins s') := by
    rintro ⟨s, before, handled⟩ other
    refine .inl ⟨s, before, .aside handled fun wake own => ?_⟩
    rw [Move.isStep_iff.mpr ⟨wake, own⟩] at other
    cases other
  cases m with
  | step index wake =>
    by_cases own : index = i
    · subst own
      left
      cases before : e.scripts[index]? with
      | none => simp only [moved, stepAt?, before] at found; cases before.symm.trans found
      | some s =>
        refine ⟨s, rfl, ?_⟩
        cases stepped : Run.step? e.table wake ⟨s, e.world⟩ with
        | none =>
          rw [moved_stuck before stepped, before] at found
          cases found
          refine .aside .idle fun wake' own => ?_
          cases own
          exact stepped
        | some r =>
          cases found.symm.trans (script_step before stepped)
          exact .step rfl stepped
    · rw [script_other own] at found
      exact aside ⟨s', found, .idle⟩ (beq_eq_false_iff_ne.mpr own)
  | stop index => exact aside (handled_of_address (fun _ => .stop) index found) rfl
  | suspend index => exact aside (handled_of_address (fun _ => .suspend) index found) rfl
  | resume index => exact aside (handled_of_address (fun _ => .resume) index found) rfl
  | goto index label => exact aside (handled_of_address (fun _ => .goto label) index found) rfl
  | publish event => exact aside ⟨s', found, .idle⟩ rfl
  | elapse milliseconds => exact aside ⟨s', found, .idle⟩ rfl
  | client client => exact aside ⟨s', found, .idle⟩ rfl
  | globals globals => exact aside ⟨s', found, .idle⟩ rfl
  | start name source arguments =>
    simp only [moved, start, List.getElem?_append] at found
    split at found
    · exact aside ⟨s', found, .idle⟩ rfl
    · next beyond =>
      refine .inr ⟨List.getElem?_eq_none (Nat.le_of_not_lt beyond), name, source, arguments, ?_⟩
      exact List.mem_singleton.mp (List.mem_of_getElem? found)

theorem length_scripts_le (e : Engine σ) (m : Move σ) :
    e.scripts.length ≤ (e.moved m).scripts.length := by
  cases m with
  | step index wake =>
    cases taken : e.stepAt? index wake with
    | none => simp [moved, taken]
    | some e' =>
      obtain ⟨s, r, _, _, rfl⟩ := stepAt_some taken
      simp [moved, taken]
  | start name source arguments => simp [moved, start]
  | _ => simp [moved, address, publish, setClock]

theorem script_fares {e : Engine σ} {i : Nat} {s : Script} (found : e.scripts[i]? = some s)
    (m : Move σ) : ∃ s', (e.moved m).scripts[i]? = some s' ∧ e.Fares m i s s' := by
  obtain ⟨within, _⟩ := List.getElem?_eq_some_iff.mp found
  have kept := Nat.lt_of_lt_of_le within (length_scripts_le e m)
  refine ⟨_, List.getElem?_eq_getElem kept, ?_⟩
  rcases script_moved (List.getElem?_eq_getElem kept) with ⟨s₀, before, fares⟩ | ⟨absent, _⟩
  · cases found.symm.trans before
    exact fares
  · cases found.symm.trans absent

/-- What holds of every new script, and is kept by its steps and by whoever handles it, holds of
every script at any time. -/
theorem Reachable.invariant {P : Script → Prop}
    (begun : ∀ config name source arguments,
      P (Script.create config name (Program.parse source) arguments))
    (handled : ∀ {s s' : Script}, s.Handled s' → P s → P s')
    (stepped : ∀ {table : CommandTable} {wake : Wake} {r r' : Run σ},
      r.step? table wake = some r' → P r.script → P r'.script)
    {e : Engine σ} (reachable : e.Reachable) {i : Nat} {s : Script}
    (found : e.scripts[i]? = some s) : P s := by
  induction reachable generalizing i s with
  | create created =>
    rw [(create_ok created).2] at found
    cases found
  | move _ m ih =>
    rcases script_moved found with ⟨s₀, was, fares⟩ | ⟨_, name, source, arguments, rfl⟩
    · cases fares with
      | aside changed => exact handled changed (ih was)
      | step _ taken => exact stepped taken (ih was)
    · exact begun _ name source arguments

end Engine

end Questline
