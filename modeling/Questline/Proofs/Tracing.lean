import Questline.Proofs.Moves

/-! Messages for debugging. Two runs that differ in the settings for debugging and in the messages
that these bring forth are alike, and no operation and no command tells them apart. -/
namespace Questline

def Effect.isTrace : Effect → Bool
  | trace _ => true
  | _ => false

/-- What a log tells beside the messages for debugging. -/
def deeds (log : List Effect) : List Effect := log.filter fun e => !e.isTrace

theorem deeds_trace (log : List Effect) (text : String) :
    deeds (log ++ [Effect.trace text]) = deeds log := by
  simp [deeds, Effect.isTrace]

theorem deeds_append {log log' : List Effect} (same : deeds log' = deeds log) (e : Effect) :
    deeds (log' ++ [e]) = deeds (log ++ [e]) := by
  simp only [deeds, List.filter_append] at same ⊢
  rw [same]

theorem ite_related {α : Type} {R : α → α → Prop} {c : Prop} [Decidable c] {a a' b b' : α}
    (yes : c → R a a') (no : ¬c → R b b') : R (if c then a else b) (if c then a' else b') := by
  split
  · next holds => exact yes holds
  · next fails => exact no fails

def Script.tuned (s : Script) (debugging : Bool) (debugLevel : Nat) (log : List Effect) : Script :=
  { s with debugging, debugLevel, log }

/-- Two scripts that differ at most in the settings for debugging and in what these make them say.
All else is the same: variables, frames, matches, state, position, random numbers and events. -/
inductive Script.Alike (s : Script) : Script → Prop
  | intro (debugging : Bool) (debugLevel : Nat) {log : List Effect}
      (same : deeds log = deeds s.log) : Alike s (s.tuned debugging debugLevel log)

variable {σ : Type}

namespace Run

def tuned (r : Run σ) (debugging : Bool) (debugLevel : Nat) (log : List Effect) : Run σ :=
  { r with script := r.script.tuned debugging debugLevel log }

/-- Such scripts in the same world. -/
inductive Alike (q : Run σ) : Run σ → Prop
  | intro (debugging : Bool) (debugLevel : Nat) {log : List Effect}
      (same : deeds log = deeds q.script.log) : Alike q (q.tuned debugging debugLevel log)

/-- Two changes that both succeed, with runs alike, or both fail in the same way. -/
inductive Agree : Except Fault (Run σ) → Except Fault (Run σ) → Prop
  | ok {q r : Run σ} (alike : Alike q r) : Agree (.ok q) (.ok r)
  | error (f : Fault) : Agree (.error f) (.error f)

variable {q r : Run σ}

namespace Alike

theorem world (alike : Alike q r) : r.world = q.world := by
  cases alike
  rfl

theorem script (alike : Alike q r) : q.script.Alike r.script := by
  obtain ⟨d, l, same⟩ := alike
  exact .intro d l same

theorem of_script {s t : Script} (alike : s.Alike t) (world : World σ) :
    Alike ⟨s, world⟩ ⟨t, world⟩ := by
  obtain ⟨d, l, same⟩ := alike
  exact .intro d l same

/-! ### Operations on a script -/

theorem note (alike : Alike q r) (e : Effect) : Alike (q.note e) (r.note e) := by
  obtain ⟨d, l, same⟩ := alike
  exact .intro d l (deeds_append same e)

theorem trace (alike : Alike q r) (level : Nat) (text : String) :
    Alike (q.trace level text) (r.trace level text) := by
  obtain ⟨d, l, same⟩ := alike
  unfold Run.trace
  split <;> split
  · exact .intro d l (deeds_append same _)
  · exact .intro d l (same.trans (deeds_trace _ _).symm)
  · exact .intro d l ((deeds_trace _ _).trans same)
  · exact .intro d l same

theorem emit (alike : Alike q r) (e : ScriptEvent) : Alike (q.emit e) (r.emit e) := by
  obtain ⟨d, l, same⟩ := alike
  exact .intro d l same

theorem setVars (alike : Alike q r) (vars : Variables) : Alike (q.setVars vars) (r.setVars vars) := by
  obtain ⟨d, l, same⟩ := alike
  exact .intro d l same

theorem setLocal (alike : Alike q r) (name : String) (value : Value) :
    Alike (q.setLocal name value) (r.setLocal name value) := by
  obtain ⟨d, l, same⟩ := alike
  exact .intro d l same

theorem removeGlobal (alike : Alike q r) (name : String) :
    Alike (q.removeGlobal name) (r.removeGlobal name) := by
  obtain ⟨d, l, same⟩ := alike
  exact ite_related (fun _ => .intro d l (deeds_append same _)) fun _ => .intro d l same

theorem setSpecial (alike : Alike q r) (name : String) (special : Special) :
    Alike (q.setSpecial name special) (r.setSpecial name special) := by
  have removed := (alike.removeGlobal name).setVars (q.script.vars.setSpecial name special)
  obtain ⟨d, l, same⟩ := alike
  exact removed

theorem setGlobal (alike : Alike q r) (name : String) (value : Value) :
    Agree (q.setGlobal name value) (r.setGlobal name value) := by
  obtain ⟨d, l, same⟩ := alike
  simp only [Run.setGlobal, bind, Except.bind, pure, Except.pure, tuned, Script.tuned]
  split
  · exact .error _
  · exact .ok (.intro d l (deeds_append same _))

theorem stop (alike : Alike q r) : Alike q.stop r.stop := by
  obtain ⟨d, l, same⟩ := alike
  exact .intro d l same

theorem subscribe (alike : Alike q r) : Alike q.subscribe.2 r.subscribe.2 := by
  obtain ⟨d, l, same⟩ := alike
  exact .intro d l same

theorem unsubscribe (alike : Alike q r) (id : Nat) : Alike (q.unsubscribe id) (r.unsubscribe id) := by
  obtain ⟨d, l, same⟩ := alike
  exact .intro d l same

theorem release (alike : Alike q r) (w : Wait) : Alike (q.release w) (r.release w) := by
  unfold Run.release
  split
  · exact alike.unsubscribe _
  · exact alike

theorem clearMatches (alike : Alike q r) : Alike q.clearMatches r.clearMatches := by
  obtain ⟨d, l, same⟩ := alike
  exact .intro d l same

theorem register (alike : Alike q r) (p : PendingMatch) : Alike (q.register p) (r.register p) := by
  obtain ⟨d, l, same⟩ := alike
  exact .intro d l same

theorem bindGroups (alike : Alike q r) (groups : List String) :
    Alike (q.bindGroups groups) (r.bindGroups groups) := by
  obtain ⟨d, l, same⟩ := alike
  exact .intro d l same

theorem bindHit (alike : Alike q r) (groups : Option (List String)) :
    Alike (groups.elim q q.bindGroups) (groups.elim r r.bindGroups) := by
  cases groups with
  | none => exact alike
  | some groups => exact alike.bindGroups groups

theorem setNext (alike : Alike q r) (next : Option Nat) :
    Alike { q with script := { q.script with next } } { r with script := { r.script with next } } := by
  obtain ⟨d, l, same⟩ := alike
  exact .intro d l same

theorem goto (alike : Alike q r) (label : String) : Agree (q.goto label) (r.goto label) := by
  have program : r.script.program = q.script.program := by cases alike; rfl
  simp only [Run.goto, bind, Except.bind, pure, Except.pure, program]
  split
  · exact .error _
  · refine .ok (.setNext (.trace ?_ _ _) _)
    exact ite_related (fun _ => alike.trace _ _) fun _ => alike

theorem gosub (alike : Alike q r) (label arguments : String) :
    Agree (q.gosub label arguments) (r.gosub label arguments) := by
  obtain ⟨d, l, same⟩ := alike
  simp only [Run.gosub, bind, Except.bind, pure, Except.pure, tuned, Script.tuned]
  split
  · exact .error _
  · refine .ok (.setNext (.trace ?_ _ _) _)
    exact .intro d l same

theorem returnBack (alike : Alike q r) : Agree q.returnBack r.returnBack := by
  obtain ⟨d, l, same⟩ := alike
  simp only [Run.returnBack, bind, Except.bind, pure, Except.pure, tuned, Script.tuned]
  split
  · exact .error _
  · refine .ok (.trace ?_ _ _)
    exact .intro d l same

end Alike

end Run

/-! ### Commands -/

namespace Commands

open Run

/-- Two commands that end in the same way, in runs alike. -/
structure Same (a b : Run σ × Outcome) : Prop where
  alike : a.1.Alike b.1
  outcome : b.2 = a.2

variable {q r : Run σ}

theorem same (alike : q.Alike r) (outcome : Outcome) : Same (q, outcome) (r, outcome) :=
  ⟨alike, rfl⟩

theorem attempt_same {a b : Except Fault (Run σ)} (alike : q.Alike r) (agree : Agree a b) :
    Same (attempt q a) (attempt r b) := by
  cases agree with
  | ok made => exact same made .done
  | error f => exact same alike (.fault f)

variable (arguments : String)

theorem setVariable_same (alike : q.Alike r) :
    Same (setVariable q arguments) (setVariable r arguments) := by
  unfold setVariable
  split
  · exact same alike _
  · next name value _ =>
    have traced := alike.trace 1 ("setVariable: " ++ name ++ "=" ++ value)
    exact attempt_same traced (traced.setGlobal _ _)

theorem setLocal_same (alike : q.Alike r) :
    Same (setLocal q arguments) (setLocal r arguments) := by
  unfold setLocal
  split
  · exact same alike _
  · exact same ((alike.trace _ _).setLocal _ _) _

theorem deleteVariable_same (alike : q.Alike r) :
    Same (deleteVariable q arguments) (deleteVariable r arguments) := by
  unfold deleteVariable
  dsimp only
  refine ite_related (fun _ => same alike _) fun _ => same (.removeGlobal ?_ _) _
  obtain ⟨d, l, same⟩ := alike
  exact .intro d l same

theorem deleteLocal_same (alike : q.Alike r) :
    Same (deleteLocal q arguments) (deleteLocal r arguments) := by
  unfold deleteLocal
  dsimp only
  refine ite_related (fun _ => same alike _) fun _ => same ?_ _
  obtain ⟨d, l, same⟩ := alike
  exact .intro d l same

theorem goto_same (alike : q.Alike r) : Same (goto q arguments) (goto r arguments) := by
  unfold goto
  exact ite_related (fun _ => same alike _) fun _ => attempt_same alike (alike.goto _)

theorem gosub_same (alike : q.Alike r) : Same (gosub q arguments) (gosub r arguments) := by
  unfold gosub
  split
  · exact same alike _
  · exact attempt_same alike (alike.gosub _ _)

theorem matchText_same (alike : q.Alike r) :
    Same (matchText q arguments) (matchText r arguments) := by
  unfold matchText
  split
  · exact same alike _
  · exact same (alike.register _) _

theorem matchPattern_same (alike : q.Alike r) :
    Same (matchPattern q arguments) (matchPattern r arguments) := by
  unfold matchPattern
  split
  · exact same alike _
  · split
    · exact same alike _
    · exact same (alike.register _) _

theorem awaitMatch_same (alike : q.Alike r) (limit : Option Nat) :
    Same (awaitMatch q limit) (awaitMatch r limit) := by
  obtain ⟨d, l, deeds⟩ := alike
  unfold awaitMatch
  dsimp only [tuned, Script.tuned]
  split
  · exact ⟨.intro d l deeds, rfl⟩
  · exact ⟨.intro d l deeds, rfl⟩

theorem matchWait_same (alike : q.Alike r) :
    Same (matchWait q arguments) (matchWait r arguments) := by
  unfold matchWait
  dsimp only
  rw [alike.world]
  refine ite_related (fun _ => awaitMatch_same alike _) fun _ => ?_
  split
  · exact same alike _
  · exact awaitMatch_same alike _

theorem waitFor_same (alike : q.Alike r) : Same (waitFor q arguments) (waitFor r arguments) := by
  unfold waitFor
  dsimp only
  refine ite_related (fun _ => same alike _) fun _ => ⟨alike.subscribe.trace _ _, ?_⟩
  cases alike
  rfl

theorem waitForPattern_same (alike : q.Alike r) :
    Same (waitForPattern q arguments) (waitForPattern r arguments) := by
  unfold waitForPattern
  split
  · exact same alike _
  · split
    · exact same alike _
    · refine ⟨alike.subscribe, ?_⟩
      cases alike
      rfl

theorem waitForEvent_same (alike : q.Alike r) (event : GameEvent) :
    Same (waitForEvent q event) (waitForEvent r event) := by
  refine ⟨alike.subscribe, ?_⟩
  cases alike
  rfl

theorem delay_same (alike : q.Alike r) : Same (delay q arguments) (delay r arguments) := by
  obtain ⟨d, l, deeds⟩ := alike
  unfold delay
  dsimp only
  split
  · exact ⟨.intro d l deeds, rfl⟩
  · exact ⟨.intro d l deeds, rfl⟩

theorem debug_same (alike : q.Alike r) : Same (debug q arguments) (debug r arguments) := by
  obtain ⟨d, l, deeds⟩ := alike
  unfold debug
  dsimp only
  generalize ["", "on", "true", "yes"].contains _ = debugging
  exact ⟨.intro debugging l deeds, rfl⟩

theorem debugLevel_same (alike : q.Alike r) :
    Same (debugLevel q arguments) (debugLevel r arguments) := by
  unfold debugLevel
  split
  · obtain ⟨d, l, deeds⟩ := alike
    exact ⟨.intro d _ deeds, rfl⟩
  · exact same alike _

theorem pause_same (alike : q.Alike r) : Same (pause q arguments) (pause r arguments) := by
  unfold pause
  dsimp only
  rw [alike.world]
  refine ite_related (fun _ => same alike _) fun _ => ?_
  split
  · exact same alike _
  · exact same alike _

theorem random_same (alike : q.Alike r) : Same (random q arguments) (random r arguments) := by
  have seed : r.script.random = q.script.random := by cases alike; rfl
  unfold random
  split
  · exact same alike _
  · split
    · exact same alike _
    · exact same alike _
    · next low high _ _ =>
      rw [seed]
      generalize Random.inRange low high q.script.random = drawn
      refine ite_related (fun _ => same alike _) fun _ => same (.setSpecial ?_ _ _) _
      obtain ⟨d, l, same⟩ := alike
      exact .intro d l same

theorem timer_same (alike : q.Alike r) : Same (timer q arguments) (timer r arguments) := by
  obtain ⟨d, l, deeds⟩ := alike
  unfold timer
  dsimp only [tuned, Script.tuned]
  split
  · exact ⟨.intro d l deeds, rfl⟩
  · refine ite_related (fun _ => ⟨.intro d l deeds, rfl⟩) fun _ => ?_
    split
    · exact ⟨.intro d l deeds, rfl⟩
    · exact ⟨(Alike.intro d l deeds).setSpecial _ _, rfl⟩
    all_goals exact ⟨.intro d l deeds, rfl⟩

theorem save_same (alike : q.Alike r) : Same (save q arguments) (save r arguments) :=
  same (alike.setSpecial _ _) _

/-- Positions that do not look at the settings for debugging. -/
structure Positions.Blind (p : Positions σ) : Prop where
  has {q r : Run σ} (alike : q.Alike r) (name : String) : p.has r name = p.has q name
  get {q r : Run σ} (alike : q.Alike r) (name : String) : p.get? r name = p.get? q name
  set {q r : Run σ} (alike : q.Alike r) (name text : String) :
    (p.set q name text).Alike (p.set r name text)

theorem localPositions_blind : (localPositions : Positions σ).Blind where
  has alike _ := by cases alike; rfl
  get alike _ := by cases alike; rfl
  set alike _ _ := alike.setLocal _ _

theorem shiftFrom_same {p : Positions σ} (blind : p.Blind) (fuel position : Nat)
    (moved : List String) (alike : q.Alike r) :
    Same (shiftFrom p fuel position moved q) (shiftFrom p fuel position moved r) := by
  induction fuel generalizing position moved q r with
  | zero => exact same alike _
  | succ fuel ih =>
    unfold shiftFrom
    dsimp only
    rw [blind.has alike, blind.get alike]
    refine ite_related (fun _ => ?_) fun _ => same (blind.set (blind.set alike _ _) _ _) _
    split
    · exact same alike _
    · exact ih _ _ (blind.set alike _ _)

variable [Client σ]

theorem send_alike (alike : q.Alike r) (text : String) :
    (send q text).2.Alike (send r text).2 ∧ (send r text).1 = (send q text).1 := by
  obtain ⟨d, l, deeds⟩ := alike
  unfold send
  dsimp only [tuned, Script.tuned]
  split
  · exact ⟨.intro d l (deeds_append deeds _), rfl⟩
  · exact ⟨.intro d l deeds, rfl⟩

theorem move_same (alike : q.Alike r) : Same (move q arguments) (move r arguments) := by
  have id : r.subscribe.1 = q.subscribe.1 := by cases alike; rfl
  obtain ⟨sent, answer⟩ := send_alike alike.subscribe (Text.trim arguments)
  unfold move
  dsimp only
  rw [id]
  refine ite_related (fun _ => same alike _) fun _ => ?_
  generalize send q.subscribe.2 (Text.trim arguments) = a at sent answer ⊢
  generalize send r.subscribe.2 (Text.trim arguments) = b at sent answer ⊢
  obtain ⟨_ | _, q'⟩ := a <;> obtain ⟨_, r'⟩ := b <;> cases answer
  · exact same (sent.unsubscribe _) _
  · exact same sent _

theorem put_same (alike : q.Alike r) : Same (put q arguments) (put r arguments) := by
  obtain ⟨sent, answer⟩ := send_alike alike (Text.trim arguments)
  unfold put
  dsimp only
  generalize send q (Text.trim arguments) = a at sent answer ⊢
  generalize send r (Text.trim arguments) = b at sent answer ⊢
  obtain ⟨_ | _, q'⟩ := a <;> obtain ⟨_, r'⟩ := b <;> cases answer
  · exact same sent _
  · have begins : r'.script.scriptPrefix = q'.script.scriptPrefix := by cases sent; rfl
    dsimp only
    rw [begins]
    exact same (ite_related (fun _ => sent.stop) fun _ => sent) _

theorem operate_same (alike : q.Alike r) (target : String) (words : List String) :
    Same (operate q target words) (operate r target words) := by
  have number : numberOf r target = numberOf q target := by cases alike; rfl
  unfold operate
  rw [number]
  split
  · exact same alike _
  · dsimp only
    split
    · exact same alike _
    · refine ite_related (fun _ => attempt_same alike (alike.setGlobal _ _)) fun _ => ?_
      split
      · exact same alike _
      · split
        · exact same alike _
        · have traced := fun text => alike.trace 1 text
          exact attempt_same (traced _) ((traced _).setGlobal _ _)

theorem math_same (alike : q.Alike r) : Same (math q arguments) (math r arguments) := by
  unfold math
  split
  · exact same alike _
  · exact operate_same alike _ _

theorem counter_same (alike : q.Alike r) : Same (counter q arguments) (counter r arguments) := by
  unfold counter
  split
  · exact same alike _
  · exact operate_same alike _ _

theorem sharedPositions_blind : (sharedPositions : Positions σ).Blind where
  has alike _ := by cases alike; rfl
  get alike _ := by cases alike; rfl
  set alike _ _ := alike.setSpecial _ _

theorem shift_same (alike : q.Alike r) : Same (shift q arguments) (shift r arguments) := by
  have names : nameCount r = nameCount q := by cases alike; rfl
  unfold shift
  dsimp only
  rw [names]
  split
  · exact shiftFrom_same localPositions_blind _ _ _ alike
  · exact shiftFrom_same sharedPositions_blind _ _ _ alike

theorem run_same (alike : q.Alike r) : Same (run q arguments) (run r arguments) := by
  unfold run
  split
  · exact same alike _
  · obtain ⟨d, l, deeds⟩ := alike
    dsimp only [tuned, Script.tuned]
    split
    · exact ⟨.intro d l (deeds_append deeds _), rfl⟩
    · exact ⟨.intro d l deeds, rfl⟩

theorem playSound_same (alike : q.Alike r) :
    Same (playSound q arguments) (playSound r arguments) := by
  unfold playSound
  dsimp only
  refine ite_related (fun _ => same alike _) fun _ => ?_
  obtain ⟨d, l, deeds⟩ := alike
  dsimp only [tuned, Script.tuned]
  split
  · exact ⟨.intro d l deeds, rfl⟩
  · exact ⟨.intro d l deeds, rfl⟩
  · exact ⟨.intro d l (deeds_append deeds _), rfl⟩

theorem perform_same (alike : q.Alike r) (command : Builtin) :
    Same (perform q arguments command) (perform r arguments command) := by
  unfold perform
  cases command with
  | counter => exact counter_same arguments alike
  | debug => exact debug_same arguments alike
  | debugLevel => exact debugLevel_same arguments alike
  | delay => exact delay_same arguments alike
  | deleteLocal => exact deleteLocal_same arguments alike
  | deleteVariable => exact deleteVariable_same arguments alike
  | echo => exact same (alike.note _) _
  | exit => exact same alike.stop _
  | gosub => exact gosub_same arguments alike
  | goto => exact goto_same arguments alike
  | matchText => exact matchText_same arguments alike
  | matchPattern => exact matchPattern_same arguments alike
  | matchWait => exact matchWait_same arguments alike
  | math => exact math_same arguments alike
  | move => exact move_same arguments alike
  | nextRoom => exact waitForEvent_same alike _
  | pause => exact pause_same arguments alike
  | playSound => exact playSound_same arguments alike
  | put => exact put_same arguments alike
  | random => exact random_same arguments alike
  | returnBack => exact attempt_same alike alike.returnBack
  | run => exact run_same arguments alike
  | save => exact save_same arguments alike
  | setLocal => exact setLocal_same arguments alike
  | setVariable => exact setVariable_same arguments alike
  | shift => exact shift_same arguments alike
  | timer => exact timer_same arguments alike
  | wait => exact waitForEvent_same alike _
  | waitFor => exact waitFor_same arguments alike
  | waitForPattern => exact waitForPattern_same arguments alike
  | ifSet _ | otherwise => exact same alike _

end Commands

end Questline
