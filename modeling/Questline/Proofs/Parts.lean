import Questline.Script.Step

/-! The parts of a run and which of them each command can touch. A command is looked into here and
nowhere else: later proofs only ask whether a part is among those that the command touches. -/
namespace Questline

/-- The parts of a script and of the world around it. -/
inductive Part where
  /-- The name, the program and the prefix of other scripts. -/
  | identity
  /-- The place in the program and the messages from outside. -/
  | position
  | next
  | state
  | events
  | locals
  | specials
  | frames
  | watch
  | settings
  | condition
  | random
  | log
  | globals
  | stream
  | client
  | clock
deriving DecidableEq

variable {σ : Type}

def Part.Same : Part → Run σ → Run σ → Prop
  | identity, r, r' =>
    r'.script.name = r.script.name ∧ r'.script.program = r.script.program ∧
      r'.script.scriptPrefix = r.script.scriptPrefix
  | position, r, r' =>
    r'.script.controls = r.script.controls ∧ r'.script.requestedLabel = r.script.requestedLabel ∧
      r'.script.phase = r.script.phase ∧ r'.script.cursor = r.script.cursor ∧
      r'.script.line = r.script.line
  | next, r, r' => r'.script.next = r.script.next
  | state, r, r' => r'.script.state = r.script.state
  | events, r, r' => r'.script.events = r.script.events
  | locals, r, r' => r'.script.vars.locals = r.script.vars.locals
  | specials, r, r' => r'.script.vars.specials = r.script.vars.specials
  | frames, r, r' => r'.script.frames = r.script.frames
  | watch, r, r' => r'.script.watch = r.script.watch
  | settings, r, r' =>
    r'.script.delay = r.script.delay ∧ r'.script.debugging = r.script.debugging ∧
      r'.script.debugLevel = r.script.debugLevel
  | condition, r, r' => r'.script.lastCondition = r.script.lastCondition
  | random, r, r' => r'.script.random = r.script.random
  | log, r, r' => r'.script.log = r.script.log
  | globals, r, r' => r'.world.globals = r.world.globals
  | stream, r, r' => r'.world.stream = r.world.stream
  | client, r, r' => r'.world.client = r.world.client
  | clock, r, r' => r'.world.now = r.world.now ∧ r'.world.tick = r.world.tick

theorem Part.Same.refl (p : Part) (r : Run σ) : p.Same r r := by
  cases p <;> simp [Part.Same]

theorem Part.Same.trans {p : Part} {r r' r'' : Run σ} (first : p.Same r r')
    (second : p.Same r' r'') : p.Same r r'' := by
  cases p <;> simp_all [Part.Same]

namespace Run

/-- Nothing changes outside the given parts. -/
def Keeps (parts : List Part) (r r' : Run σ) : Prop := ∀ p, p ∉ parts → p.Same r r'

variable {parts : List Part} {r r' r'' : Run σ}

theorem Keeps.refl (parts : List Part) (r : Run σ) : Keeps parts r r :=
  fun p _ => Part.Same.refl p r

theorem Keeps.trans {more : List Part} (first : Keeps parts r r') (second : Keeps more r' r'') :
    Keeps (parts ++ more) r r'' := by
  intro p outside
  rw [List.mem_append, not_or] at outside
  exact (first p outside.1).trans (second p outside.2)

theorem Keeps.mono {more : List Part} (keeps : Keeps parts r r') (subset : parts ⊆ more) :
    Keeps more r r' :=
  fun p outside => keeps p fun inside => outside (subset inside)

/-! ### What the small operations touch -/

theorem note_keeps (r : Run σ) (e : Effect) : Keeps [.log] r (r.note e) := by
  intro p outside
  cases p <;> simp_all [Part.Same, note]

theorem trace_keeps (r : Run σ) (level : Nat) (text : String) :
    Keeps [.log] r (r.trace level text) := by
  unfold trace
  split
  · exact note_keeps r _
  · exact .refl _ r

@[simp] theorem trace_frames (r : Run σ) (level : Nat) (text : String) :
    (r.trace level text).script.frames = r.script.frames :=
  trace_keeps r level text .frames (by decide)

theorem setLocal_keeps (r : Run σ) (name : String) (value : Value) :
    Keeps [.locals] r (r.setLocal name value) := by
  intro p outside
  cases p <;> simp_all [Part.Same, setLocal, setVars, Variables.setLocal]

theorem removeGlobal_keeps (r : Run σ) (name : String) :
    Keeps [.globals, .log] r (r.removeGlobal name) := by
  unfold removeGlobal
  split
  · intro p outside
    cases p <;> simp_all [Part.Same, note]
  · exact .refl _ r

theorem setSpecial_keeps (r : Run σ) (name : String) (special : Special) :
    Keeps [.specials, .globals, .log] r (r.setSpecial name special) := by
  have removed := removeGlobal_keeps r name
  intro p outside
  have same := removed p (by simp_all)
  cases p <;> simp_all [Part.Same, setSpecial, setVars, Variables.setSpecial]

theorem setGlobal_keeps {name : String} {value : Value} (done : r.setGlobal name value = .ok r') :
    Keeps [.globals, .log] r r' := by
  simp only [setGlobal, Variables.setGlobal, bind, Except.bind, pure, Except.pure] at done
  split at done
  · cases done
  · cases done
    intro p outside
    cases p <;> simp_all [Part.Same, note]

theorem stop_keeps (r : Run σ) : Keeps [.state] r r.stop := by
  intro p outside
  cases p <;> simp_all [Part.Same, stop]

theorem subscribe_keeps (r : Run σ) : Keeps [.stream] r r.subscribe.2 := by
  intro p outside
  cases p <;> simp_all [Part.Same, subscribe]

theorem unsubscribe_keeps (r : Run σ) (id : Nat) : Keeps [.stream] r (r.unsubscribe id) := by
  intro p outside
  cases p <;> simp_all [Part.Same, unsubscribe]

theorem release_keeps (r : Run σ) (w : Wait) : Keeps [.stream] r (r.release w) := by
  unfold release
  split
  · exact unsubscribe_keeps r _
  · exact .refl _ r

theorem clearMatches_keeps (r : Run σ) : Keeps [.watch, .stream] r r.clearMatches := by
  intro p outside
  cases p <;> simp_all [Part.Same, clearMatches]

theorem register_keeps (r : Run σ) (m : PendingMatch) :
    Keeps [.watch, .stream] r (r.register m) := by
  intro p outside
  cases p <;> simp_all [Part.Same, register]

theorem bindGroups_keeps (r : Run σ) (groups : List String) :
    Keeps [.locals] r (r.bindGroups groups) := by
  have specials : ∀ (gs : List (String × Nat)) (vars : Variables),
      (gs.foldl (fun vars g => vars.setLocal (toString g.2) (.text g.1)) vars).specials =
        vars.specials := by
    intro gs
    induction gs with
    | nil => intro vars; rfl
    | cons g gs ih => intro vars; exact ih _
  intro p outside
  cases p <;> simp_all [Part.Same, bindGroups, setVars]

theorem setNext_keeps (r : Run σ) (next : Option Nat) :
    Keeps [.next] r { r with script := { r.script with next } } := by
  intro p outside
  cases p <;> simp_all [Part.Same]

/-! ### Jumps -/

theorem goto_ok {label : String} (done : r.goto label = .ok r') :
    ∃ target, r.script.program.resolve label = .ok target ∧ r'.script.next = target.line ∧
      Keeps [.log, .next] r r' := by
  simp only [goto, bind, Except.bind, pure, Except.pure] at done
  split at done
  · cases done
  · next target resolved =>
    cases done
    refine ⟨target, resolved, rfl, ?_⟩
    refine Keeps.mono (@Keeps.trans σ [.log] r _ _ _ ?_
      ((trace_keeps _ _ _).trans (setNext_keeps _ _))) (by decide)
    split
    · exact trace_keeps r _ _
    · exact .refl _ r

/-- A call puts a frame on the others: the line after the calling one and the caller's locals. -/
theorem gosub_ok {label arguments : String} (done : r.gosub label arguments = .ok r') :
    ∃ target, r.script.program.resolve label = .ok target ∧ r'.script.next = target.line ∧
      r'.script.frames =
        { resume := r.script.line.elim 0 (· + 1), locals := r.script.vars.locals } ::
          r.script.frames ∧
      Keeps [.locals, .frames, .log, .next] r r' := by
  simp only [gosub, bind, Except.bind, pure, Except.pure] at done
  split at done
  · cases done
  · next target resolved =>
    cases done
    refine ⟨target, resolved, rfl, by simp [setVars], ?_⟩
    refine Keeps.mono (@Keeps.trans σ [.locals, .frames] r _ _ _ ?_
      ((trace_keeps _ _ _).trans (setNext_keeps _ _))) (by decide)
    intro p outside
    cases p <;> simp_all [Part.Same, setVars]

/-- A return takes up the innermost frame: its locals, and the first command from its line on. -/
theorem returnBack_ok (done : r.returnBack = .ok r') :
    ∃ frame, r.script.frames = frame :: r'.script.frames ∧
      r'.script.vars.locals = frame.locals ∧
      r'.script.next = r.script.program.firstAt? frame.resume ∧
      Keeps [.locals, .frames, .log, .next] r r' := by
  cases stack : r.script.frames with
  | nil => simp [returnBack, stack, popFrame, bind, Except.bind] at done
  | cons frame frames =>
    simp only [returnBack, stack, popFrame, bind, Except.bind, pure, Except.pure] at done
    cases done
    refine ⟨frame, by simp, trace_keeps _ _ _ .locals (by decide),
      trace_keeps _ _ _ .next (by decide), ?_⟩
    refine Keeps.mono (@Keeps.trans σ [.locals, .frames, .next] r _ _ _ ?_ (trace_keeps _ _ _))
      (by decide)
    intro p outside
    cases p <;> simp_all [Part.Same, setVars]

end Run

/-! ### What the commands touch -/

/-- The parts that a command may touch. -/
def Builtin.touches : Builtin → List Part
  | counter | math | setVariable => [.globals, .log]
  | debug | debugLevel | delay => [.settings]
  | deleteLocal => [.locals]
  | deleteVariable | save | timer => [.specials, .globals, .log]
  | echo => [.log]
  | exit => [.state]
  | gosub | returnBack => [.locals, .frames, .log, .next]
  | goto => [.log, .next]
  | matchText | matchPattern | matchWait => [.watch, .stream]
  | move => [.log, .client, .stream]
  | nextRoom | wait | waitForPattern => [.stream]
  | waitFor => [.log, .stream]
  | put => [.log, .client, .state]
  | random => [.random, .specials, .globals, .log]
  | playSound | run => [.log, .client]
  | setLocal => [.locals, .log]
  | shift => [.locals, .specials, .globals, .log]
  | ifSet _ | otherwise | pause => []

namespace Commands

open Run

variable {parts : List Part} (r : Run σ) (arguments : String)

theorem attempt_keeps {change : Except Fault (Run σ)}
    (kept : ∀ r', change = .ok r' → Keeps parts r r') : Keeps parts r (attempt r change).1 := by
  cases change with
  | error f => exact .refl _ r
  | ok r' => exact kept r' rfl

theorem attempt_cases (q : Run σ) (change : Except Fault (Run σ)) :
    (attempt q change).1 = q ∨ (attempt q change).2 = .done := by
  cases change with
  | error f => exact .inl rfl
  | ok r => exact .inr rfl

theorem ok_of_attempt {r : Run σ} {change : Except Fault (Run σ)}
    (done : (attempt r change).2 = .done) :
    change = .ok (attempt r change).1 := by
  cases change with
  | error f => cases done
  | ok r' => rfl

theorem assign_keeps (name : String) (value : Value) :
    Keeps [.globals, .log] r (attempt r (r.setGlobal name value)).1 :=
  attempt_keeps r fun _ done => setGlobal_keeps done

theorem setVariable_keeps : Keeps [.globals, .log] r (setVariable r arguments).1 := by
  unfold setVariable
  split
  · exact .refl _ r
  · exact ((trace_keeps r _ _).trans (assign_keeps _ _ _)).mono (by decide)

theorem setLocalVariable_keeps : Keeps [.locals, .log] r (setLocal r arguments).1 := by
  unfold setLocal
  split
  · exact .refl _ r
  · exact ((trace_keeps r _ _).trans (setLocal_keeps _ _ _)).mono (by decide)

theorem deleteSpecial_keeps (name : String) :
    Keeps [.specials] r (r.setVars (r.script.vars.deleteSpecial name)) := by
  unfold Variables.deleteSpecial
  intro p outside
  split <;> cases p <;> simp_all [Part.Same, setVars]

theorem deleteVariable_keeps :
    Keeps [.specials, .globals, .log] r (deleteVariable r arguments).1 := by
  unfold deleteVariable
  simp only
  split
  · exact .refl _ r
  · exact (deleteSpecial_keeps r _).trans (removeGlobal_keeps _ _)

theorem deleteLocal_keeps : Keeps [.locals] r (deleteLocal r arguments).1 := by
  unfold deleteLocal
  simp only
  split
  · exact .refl _ r
  · intro p outside
    cases p <;> simp_all [Part.Same, setVars, Variables.deleteLocal]

theorem goto_keeps : Keeps [.log, .next] r (goto r arguments).1 := by
  unfold goto
  simp only
  split
  · exact .refl _ r
  · refine attempt_keeps r fun r' done => ?_
    obtain ⟨_, _, _, kept⟩ := goto_ok done
    exact kept

theorem gosub_keeps : Keeps [.locals, .frames, .log, .next] r (gosub r arguments).1 := by
  unfold gosub
  split
  · exact .refl _ r
  · refine attempt_keeps r fun r' done => ?_
    obtain ⟨_, _, _, _, kept⟩ := gosub_ok done
    exact kept

theorem return_keeps : Keeps [.locals, .frames, .log, .next] r (attempt r r.returnBack).1 := by
  refine attempt_keeps r fun r' done => ?_
  obtain ⟨_, _, _, _, kept⟩ := returnBack_ok done
  exact kept

theorem matchText_keeps : Keeps [.watch, .stream] r (matchText r arguments).1 := by
  unfold matchText
  split
  · exact .refl _ r
  · exact register_keeps r _

theorem matchPattern_keeps : Keeps [.watch, .stream] r (matchPattern r arguments).1 := by
  unfold matchPattern
  split
  · exact .refl _ r
  · split
    · exact .refl _ r
    · exact register_keeps r _

theorem awaitMatch_keeps (limit : Option Nat) :
    Keeps [.watch, .stream] r (awaitMatch r limit).1 := by
  unfold awaitMatch
  split
  · intro p outside
    cases p <;> simp_all [Part.Same]
  · exact clearMatches_keeps r

theorem matchWait_keeps : Keeps [.watch, .stream] r (matchWait r arguments).1 := by
  unfold matchWait
  simp only
  split
  · exact awaitMatch_keeps r _
  · split
    · exact .refl _ r
    · exact awaitMatch_keeps r _

theorem waitFor_keeps : Keeps [.log, .stream] r (waitFor r arguments).1 := by
  unfold waitFor
  simp only
  split
  · exact .refl _ r
  · exact ((subscribe_keeps r).trans (trace_keeps _ _ _)).mono (by decide)

theorem waitForPattern_keeps : Keeps [.stream] r (waitForPattern r arguments).1 := by
  unfold waitForPattern
  split
  · exact .refl _ r
  · split
    · exact .refl _ r
    · exact subscribe_keeps r

theorem delay_keeps : Keeps [.settings] r (delay r arguments).1 := by
  unfold delay
  simp only
  split
  · exact .refl _ r
  · intro p outside
    cases p <;> simp_all [Part.Same]

theorem debug_keeps : Keeps [.settings] r (debug r arguments).1 := by
  intro p outside
  cases p <;> simp_all [Part.Same, debug]

theorem debugLevel_keeps : Keeps [.settings] r (debugLevel r arguments).1 := by
  unfold debugLevel
  split
  · intro p outside
    cases p <;> simp_all [Part.Same]
  · exact .refl _ r

theorem random_keeps : Keeps [.random, .specials, .globals, .log] r (random r arguments).1 := by
  unfold random
  split
  · exact .refl _ r
  · split
    · exact .refl _ r
    · exact .refl _ r
    · split
      · exact .refl _ r
      · refine @Keeps.trans σ [.random] r _ _ _ ?_ (setSpecial_keeps _ _ _)
        intro p outside
        cases p <;> simp_all [Part.Same]

theorem retime_keeps (name : String) (special : Special) :
    Keeps [.specials] r (r.setVars (r.script.vars.setSpecial name special)) := by
  intro p outside
  cases p <;> simp_all [Part.Same, setVars, Variables.setSpecial]

theorem timer_keeps : Keeps [.specials, .globals, .log] r (timer r arguments).1 := by
  unfold timer
  split
  · exact .refl _ r
  · simp only
    split
    · exact .refl _ r
    · split
      · exact (retime_keeps r _ _).mono (by decide)
      · exact setSpecial_keeps r _ _
      · exact (retime_keeps r _ _).mono (by decide)
      · exact (retime_keeps r _ _).mono (by decide)
      all_goals exact .refl _ r

theorem shiftFrom_keeps (positions : Positions σ)
    (kept : ∀ (r : Run σ) name text, Keeps parts r (positions.set r name text))
    (fuel position : Nat)
    (moved : List String) (r : Run σ) :
    Keeps parts r (shiftFrom positions fuel position moved r).1 := by
  induction fuel generalizing position moved r with
  | zero => exact .refl _ r
  | succ fuel ih =>
    unfold shiftFrom
    simp only
    split
    · split
      · exact .refl _ r
      · exact ((kept r _ _).trans (ih _ _ _)).mono (by simp)
    · exact ((kept r _ _).trans (kept _ _ _)).mono (by simp)

theorem pause_keeps : Keeps [] r (pause r arguments).1 := by
  unfold pause
  simp only
  split
  · exact .refl _ r
  · split <;> exact .refl _ r

section Client

variable [Client σ]

theorem operate_keeps (target : String) (words : List String) :
    Keeps [.globals, .log] r (operate r target words).1 := by
  unfold operate
  split
  · exact .refl _ r
  · simp only
    split
    · exact .refl _ r
    · split
      · exact assign_keeps r _ _
      · split
        · exact .refl _ r
        · split
          · exact .refl _ r
          · exact ((trace_keeps r _ _).trans (assign_keeps _ _ _)).mono (by decide)

theorem math_keeps : Keeps [.globals, .log] r (math r arguments).1 := by
  unfold math
  split
  · exact .refl _ r
  · exact operate_keeps r _ _

theorem counter_keeps : Keeps [.globals, .log] r (counter r arguments).1 := by
  unfold counter
  split
  · exact .refl _ r
  · exact operate_keeps r _ _

theorem send_keeps (text : String) : Keeps [.log, .client] r (send r text).2 := by
  unfold send
  split <;> intro p outside <;> cases p <;> simp_all [Part.Same, note]

theorem move_keeps : Keeps [.log, .client, .stream] r (move r arguments).1 := by
  unfold move
  simp only
  split
  · exact .refl _ r
  · have sent := (subscribe_keeps r).trans (send_keeps r.subscribe.2 (Text.trim arguments))
    split
    · next q answer => 
      rw [answer] at sent
      exact sent.mono (by decide)
    · next f q answer =>
      rw [answer] at sent
      exact (sent.trans (unsubscribe_keeps q _)).mono (by decide)

theorem put_keeps : Keeps [.log, .client, .state] r (put r arguments).1 := by
  unfold put
  have sent := send_keeps r (Text.trim arguments)
  simp only
  split
  · next f q answer =>
    rw [answer] at sent
    exact sent.mono (by decide)
  · next q answer =>
    rw [answer] at sent
    split
    · exact sent.trans (stop_keeps q)
    · exact sent.mono (by decide)

theorem run_keeps : Keeps [.log, .client] r (run r arguments).1 := by
  unfold run
  split
  · exact .refl _ r
  · split <;> intro p outside <;> cases p <;> simp_all [Part.Same, note]

theorem playSound_keeps : Keeps [.log, .client] r (playSound r arguments).1 := by
  unfold playSound
  simp only
  split
  · exact .refl _ r
  · split <;> intro p outside <;> cases p <;> simp_all [Part.Same, note, fail]

theorem shift_keeps : Keeps [.locals, .specials, .globals, .log] r (shift r arguments).1 := by
  unfold shift
  simp only
  split
  · exact shiftFrom_keeps localPositions (fun r name _ => (setLocal_keeps r name _).mono (by decide))
      _ _ _ r
  · exact shiftFrom_keeps sharedPositions
      (fun r name _ => (setSpecial_keeps r name _).mono (by decide)) _ _ _ r

theorem perform_keeps (command : Builtin) :
    Keeps command.touches r (perform r arguments command).1 := by
  cases command with
  | counter => exact counter_keeps r arguments
  | debug => exact debug_keeps r arguments
  | debugLevel => exact debugLevel_keeps r arguments
  | delay => exact delay_keeps r arguments
  | deleteLocal => exact deleteLocal_keeps r arguments
  | deleteVariable => exact deleteVariable_keeps r arguments
  | echo => exact note_keeps r _
  | otherwise => exact .refl _ r
  | exit => exact stop_keeps r
  | gosub => exact gosub_keeps r arguments
  | goto => exact goto_keeps r arguments
  | ifSet digit => exact .refl _ r
  | matchText => exact matchText_keeps r arguments
  | matchPattern => exact matchPattern_keeps r arguments
  | matchWait => exact matchWait_keeps r arguments
  | math => exact math_keeps r arguments
  | move => exact move_keeps r arguments
  | nextRoom => exact subscribe_keeps r
  | pause => exact pause_keeps r arguments
  | playSound => exact playSound_keeps r arguments
  | put => exact put_keeps r arguments
  | random => exact random_keeps r arguments
  | returnBack => exact return_keeps r
  | run => exact run_keeps r arguments
  | save => exact setSpecial_keeps r _ _
  | setLocal => exact setLocalVariable_keeps r arguments
  | setVariable => exact setVariable_keeps r arguments
  | shift => exact shift_keeps r arguments
  | timer => exact timer_keeps r arguments
  | wait => exact subscribe_keeps r
  | waitFor => exact waitFor_keeps r arguments
  | waitForPattern => exact waitForPattern_keeps r arguments

end Client

end Commands

end Questline
