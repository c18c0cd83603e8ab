import Questline.Proofs.Keywords
import Questline.Proofs.Moves

/-! Round-time and delay before a command that talks to the game. Round-time is looked at before the
delay begins and not again after it, so that a command is sent while no round-time is left, or after
a delay at whose beginning none was left. -/
namespace Questline

/-! ### Waits of commands -/

/-- Whether a wait is one that a command begins. The others come before a command. -/
def Wait.isOwn : Wait → Bool
  | pause _ | line .. | event .. | hit .. => true
  | _ => false

def Outcome.isOwn : Outcome → Bool
  | waiting w => w.isOwn
  | _ => true

theorem Outcome.isOwn_of_isOver {outcome : Outcome} (isOver : outcome.isOver = true) :
    outcome.isOwn = true := by
  cases outcome with
  | waiting w => cases isOver
  | _ => rfl

variable {σ : Type} {wake : Wake}

namespace Commands

variable (q : Run σ) (arguments : String)

theorem awaitMatch_isOwn (limit : Option Nat) : (awaitMatch q limit).2.isOwn = true := by
  unfold awaitMatch
  split <;> rfl

theorem matchWait_isOwn : (matchWait q arguments).2.isOwn = true := by
  unfold matchWait
  simp only
  split
  · exact awaitMatch_isOwn q _
  · split
    · rfl
    · exact awaitMatch_isOwn q _

theorem waitFor_isOwn : (waitFor q arguments).2.isOwn = true := by
  unfold waitFor
  simp only
  split <;> rfl

theorem waitForPattern_isOwn : (waitForPattern q arguments).2.isOwn = true := by
  unfold waitForPattern
  split
  · rfl
  · split <;> rfl

theorem pause_isOwn : (pause q arguments).2.isOwn = true := by
  unfold pause
  simp only
  split
  · rfl
  · split <;> rfl

variable [Client σ]

theorem move_isOwn : (move q arguments).2.isOwn = true := by
  unfold move
  simp only
  split
  · rfl
  · split <;> rfl

theorem perform_isOwn (command : Builtin) : (perform q arguments command).2.isOwn = true := by
  cases waits : command.waits with
  | false => exact Outcome.isOwn_of_isOver (perform_over q arguments command waits)
  | true =>
    cases command with
    | matchWait => exact matchWait_isOwn q arguments
    | move => exact move_isOwn q arguments
    | nextRoom | wait => rfl
    | pause => exact pause_isOwn q arguments
    | waitFor => exact waitFor_isOwn q arguments
    | waitForPattern => exact waitForPattern_isOwn q arguments
    | _ => cases waits

end Commands

namespace Run

theorem conclude_waiting {q : Run σ} {outcome : Outcome} {w : Wait}
    (waits : (conclude (q, outcome)).script.phase = .waiting w) : outcome = .waiting w := by
  cases outcome with
  | waiting w' =>
    cases waits
    rfl
  | fault f =>
    simp only [conclude, handleFault] at waits
    split at waits <;> cases waits
  | _ => cases waits

variable [Client σ]

theorem execute_isOwn (table : CommandTable) (r : Run σ) (line : List Char) :
    (r.execute table line).2.isOwn = true := by
  rcases execute_cases table r line with ⟨q, command, arguments, _, done⟩ | ⟨q, outcome, led, done⟩
  · rw [done]
    exact Commands.perform_isOwn q arguments command
  · have brief := dispatch_brief led
    rw [done]
    cases outcome with
    | waiting w => cases brief
    | _ => rfl

/-! ### What comes before a command -/

def roundtime (r : Run σ) : Nat := Client.roundtime r.world.client r.world.now

theorem Keeps.roundtime {parts : List Part} {r q : Run σ} (kept : Keeps parts r q)
    (client : Part.client ∉ parts) (clock : Part.clock ∉ parts) : q.roundtime = r.roundtime := by
  have same : q.world.client = r.world.client := kept .client client
  have time : q.world.now = r.world.now := (kept .clock clock).1
  rw [Run.roundtime, Run.roundtime, same, time]

/-- What the next step of a script comes to, as far as round-time and delay go. -/
inductive Paced (r : Run σ) : Turn σ → Prop
  | ended {q : Run σ}
      (calm : ∀ t, q.script.phase = .waiting (.delay t) → r.script.phase = .waiting (.delay t)) :
      Paced r (.ended q)
  | delay {q : Run σ} {t : Option Nat} (aside : Keeps [.position, .next] r q)
      (lapsed : q.roundtime = 0) (slow : 0 < q.script.delay) :
      Paced r (.ended (q.setPhase (.waiting (.delay t))))
  | execute {q : Run σ} {command : Command} (aside : Keeps [.position, .next] r q)
      (found : q.script.command? = some command)
      (fit : command.instant = true ∨ q.roundtime = 0 ∨
        ∃ t, r.script.phase = .waiting (.delay t)) :
      Paced r (.execute q (expand q.script.vars q.around command.text))

variable {r q : Run σ}

theorem arrive_paced (aside : Keeps [.position, .next] r q)
    (fit : ∀ command, q.script.command? = some command → command.instant = true ∨
      q.roundtime = 0 ∨ ∃ t, r.script.phase = .waiting (.delay t)) : Paced r q.arrive := by
  unfold arrive
  split
  · exact .ended nofun
  · split
    · exact .ended nofun
    · split
      · next command found => exact .execute aside found (fit command found)
      · exact .ended nofun

theorem throttle_paced (aside : Keeps [.position, .next] r q) : Paced r q.throttle := by
  unfold throttle
  split
  · exact .ended nofun
  · next none =>
    have lapsed : q.roundtime = 0 := Nat.eq_zero_of_not_pos none
    split
    · next slow => exact .delay aside lapsed slow
    · exact arrive_paced aside fun _ _ => .inr (.inl lapsed)

theorem approach_paced (aside : Keeps [.position, .next] r q) : Paced r q.approach := by
  unfold approach
  split
  · next command found =>
    split
    · next instant =>
      refine arrive_paced aside fun other found' => ?_
      cases found.symm.trans found'
      exact .inl instant
    · exact throttle_paced aside
  · exact .ended nofun

theorem enter_paced (ready : r.script.phase = .ready) (aside : Keeps [.position, .next] r q)
    (phase : q.script.phase = r.script.phase) : Paced r q.enter := by
  unfold enter
  split
  · exact .ended nofun
  · next index _ =>
    unfold takeUp
    simp only
    split
    · refine .ended fun t delayed => ?_
      cases (phase.trans ready).symm.trans delayed
    · exact approach_paced ((aside.trans (setLine_keeps q (some index) _)).mono (by decide))

theorem proceed_paced (ready : r.script.phase = .ready) : Paced r r.proceed := by
  unfold proceed
  split
  · exact .ended nofun
  · simp only
    have polled := setControls_keeps r (poll r.script.requestedLabel r.script.controls).2.1
      (poll r.script.requestedLabel r.script.controls).2.2
    split
    · exact .ended nofun
    · split
      · exact enter_paced ready (polled.mono (by decide)) rfl
      · have cleared := setControls_keeps r none
          (poll r.script.requestedLabel r.script.controls).2.2
        split
        · exact enter_paced ready ((cleared.trans (setCursor_keeps _ _)).mono (by decide)) rfl
        · exact .ended nofun

theorem heed_paced {w : Wait} (message : Control) (rest : List Control) :
    Paced r (r.heed w message rest) := by
  have heeded := setControls_keeps r r.script.requestedLabel rest
  cases message with
  | stop => exact .ended nofun
  | goto label => exact .ended nofun
  | resume =>
    cases w with
    | parked => exact approach_paced (heeded.mono (by decide))
    | _ => exact .ended fun _ delayed => delayed

theorem expire_paced {w : Wait} (waits : r.script.phase = .waiting w) : Paced r (r.expire w) := by
  have here : Keeps [.position, .next] r r := .refl _ r
  cases w with
  | roundtime _ => exact throttle_paced here
  | delay t => exact arrive_paced here fun _ _ => .inr (.inr ⟨t, waits⟩)
  | _ => exact .ended nofun

theorem meet_paced {w : Wait} {event : GameEvent} {result : Run σ × Outcome}
    (met : q.meet w event = some result) : Paced r (.ended (conclude result)) := by
  refine .ended fun t delayed => ?_
  have isOver := (meet_some met).2
  rw [show result.2 = .waiting (.delay t) from conclude_waiting delayed] at isOver
  cases isOver

theorem wake_paced {w : Wait} {turn : Turn σ} (waits : r.script.phase = .waiting w)
    (woken : r.wake? w wake = some turn) : Paced r turn := by
  cases wake with
  | message =>
    simp only [wake?] at woken
    split at woken
    · cases woken
      exact heed_paced _ _
    · cases woken
  | event =>
    obtain ⟨_, event, stream, _, _, rfl⟩ := wake_event woken
    cases met : (r.withStream stream).meet w event with
    | some result => exact meet_paced met
    | none => exact .ended fun _ delayed => delayed
  | deadline =>
    simp only [wake?] at woken
    split at woken
    · cases woken
      exact expire_paced waits
    · cases woken

theorem turn_paced {turn : Turn σ} (taken : r.turn? wake = some turn) : Paced r turn := by
  unfold turn? at taken
  split at taken
  · cases taken; exact .ended nofun
  · next ready => cases taken; exact proceed_paced ready
  · next w waits => exact wake_paced waits taken
  · cases taken; exact .ended nofun
  · cases taken; exact .ended nofun
  · cases taken

/-- A delay begins only while no round-time is left, and only where one is set. -/
theorem step_delay {table : CommandTable} {r r' : Run σ} {t : Option Nat}
    (stepped : r.step? table wake = some r') (delayed : r'.script.phase = .waiting (.delay t)) :
    r'.script.delay = r.script.delay ∧
      (r.script.phase = .waiting (.delay t) ∨ r.roundtime = 0 ∧ 0 < r.script.delay) := by
  rcases step_cases stepped with turn | ⟨q, line, _, rfl⟩
  · refine ⟨(ended_keeps turn .settings (by decide)).1, ?_⟩
    cases turn_paced turn with
    | ended calm => exact .inl (calm t delayed)
    | delay aside lapsed slow =>
      have same := (aside .settings (by decide)).1
      rw [aside.roundtime (by decide) (by decide)] at lapsed
      rw [same] at slow
      exact .inr ⟨lapsed, slow⟩
  · have own := execute_isOwn table q line.toList
    rw [show (q.execute table line.toList).2 = .waiting (.delay t) from
      conclude_waiting delayed] at own
    cases own

end Run

/-! ### Delays in a run -/

def Program.isLiteral (p : Program) : Bool :=
  p.commands.all fun line => line.all fun command =>
    command.text.toList.all fun c => c ≠ '%' && c ≠ '$'

theorem Program.literal_of_command {p : Program} (literal : p.isLiteral = true) {index : Nat}
    {command : Command} (present : p.command? index = some command) :
    ∀ c ∈ command.text.toList, c ≠ '%' ∧ c ≠ '$' := by
  have member := List.mem_of_getElem? (Option.join_eq_some_iff.mp present)
  have text := List.all_eq_true.mp literal _ member
  simpa using text

theorem expand_literal {text : String} (literal : ∀ c ∈ text.toList, c ≠ '%' ∧ c ≠ '$')
    (vars : Variables) (around : Surroundings) : expand vars around text = text := by
  have pieces : ∀ cs : List Char, (∀ c ∈ cs, c ≠ '%' ∧ c ≠ '$') →
      (Piece.all cs).flatMap (Piece.expand vars around) = cs := by
    intro cs literal
    induction cs with
    | nil => simp [Piece.all]
    | cons c rest ih =>
      obtain ⟨percent, dollar⟩ := literal c List.mem_cons_self
      have first : Piece.first c rest = (.plain c, rest) := by
        simp [Piece.first, percent, dollar]
      rw [Piece.all, first, List.flatMap_cons,
        ih fun other among => literal other (List.mem_cons_of_mem _ among)]
      rfl
  rw [expand, pieces _ literal, String.ofList_toList]

namespace Engine

theorem create_table {config : Config} {world : World σ} {e : Engine σ}
    (created : Engine.create config [] world = .ok e) : e.table = .standard := by
  cases created
  rfl

variable [Client σ]

def roundtime (e : Engine σ) : Nat := Client.roundtime e.world.client e.world.now

/-- The builtin command to which the next step of the script at an index leads, with its arguments
and the state in which it is performed. -/
def leadsTo? (e : Engine σ) (i : Nat) (wake : Wake) : Option (Run σ × Builtin × String) :=
  (e.scripts[i]?).bind fun s => Run.leadsTo? e.table wake ⟨s, e.world⟩

/-- The script at an index sits out the delay that is set for it, up to a time. -/
def SitsOut (e : Engine σ) (i : Nat) (t : Option Nat) : Prop :=
  ∃ s, e.scripts[i]? = some s ∧ s.phase = .waiting (.delay t) ∧ 0 < s.delay

/-- Along some moves the script at an index has begun to sit out a delay while no round-time was
left, and has done nothing else since. -/
def DelayedSince (e : Engine σ) (moves : List (Move σ)) (i : Nat) (t : Option Nat) : Prop :=
  ∃ earlier wake later, moves = earlier ++ .step i wake :: later ∧
    (e.after earlier).roundtime = 0 ∧
    ((e.after earlier).moved (.step i wake)).Throughout (fun e => e.SitsOut i t) later

theorem after_append (e : Engine σ) (first second : List (Move σ)) :
    e.after (first ++ second) = (e.after first).after second := List.foldl_append

theorem Throughout.snoc {p : Engine σ → Prop} {e : Engine σ} {moves : List (Move σ)}
    (holds : e.Throughout p moves) {m : Move σ} (last : p ((e.after moves).moved m)) :
    e.Throughout p (moves ++ [m]) := by
  induction moves generalizing e with
  | nil => exact ⟨holds, last⟩
  | cons first rest ih => exact ⟨holds.1, ih holds.2 last⟩

theorem DelayedSince.snoc {e : Engine σ} {moves : List (Move σ)} {i : Nat} {t : Option Nat}
    (since : e.DelayedSince moves i t) {m : Move σ} (still : (e.after (moves ++ [m])).SitsOut i t) :
    e.DelayedSince (moves ++ [m]) i t := by
  obtain ⟨earlier, wake, later, rfl, lapsed, throughout⟩ := since
  have shape : e.after ((earlier ++ .step i wake :: later) ++ [m]) =
      (((e.after earlier).moved (.step i wake)).after later).moved m := by
    simp only [after_append, after_cons]
    rfl
  rw [shape] at still
  exact ⟨earlier, wake, later ++ [m], by simp, lapsed, throughout.snoc still⟩

/-- Whoever sits out a delay has begun to do so at a step at which no round-time was left. -/
theorem delayedSince {e : Engine σ} (new : e.scripts = []) (moves : List (Move σ)) {i : Nat}
    {s : Script} {t : Option Nat} (found : (e.after moves).scripts[i]? = some s)
    (delayed : s.phase = .waiting (.delay t)) :
    0 < s.delay ∧ e.DelayedSince moves i t := by
  induction moves using List.reverseRecOn generalizing s with
  | nil =>
    rw [show (e.after []).scripts = [] from new] at found
    cases found
  | append_singleton moves m ih =>
    have last : e.after (moves ++ [m]) = (e.after moves).moved m := after_append e moves [m]
    rw [last] at found
    rcases script_moved found with ⟨s₀, was, fares⟩ | ⟨_, name, source, arguments, rfl⟩
    · -- a script that was delayed before the move stays so with the same delay
      have goesOn : s.delay = s₀.delay → s₀.phase = .waiting (.delay t) →
          0 < s.delay ∧ e.DelayedSince (moves ++ [m]) i t := by
        intro same before
        obtain ⟨slow, since⟩ := ih was before
        rw [← same] at slow
        exact ⟨slow, since.snoc ⟨s, by rw [last]; exact found, delayed, slow⟩⟩
      cases fares with
      | aside handled =>
        obtain ⟨kept, phase⟩ := handled.keeps (e.after moves).world
        exact goesOn (kept .settings (by decide)).1 (phase.symm.trans delayed)
      | @step wake r own stepped =>
        obtain ⟨same, before | ⟨lapsed, slow⟩⟩ := Run.step_delay stepped delayed
        · exact goesOn same before
        · subst own
          have slow : 0 < r.script.delay := by
            rw [same]
            exact slow
          exact ⟨slow, moves, wake, [], rfl, lapsed, r.script, found, delayed, slow⟩
    · cases delayed

theorem table_moved (e : Engine σ) (m : Move σ) : (e.moved m).table = e.table := by
  cases m with
  | step i wake =>
    cases taken : e.stepAt? i wake with
    | none => simp only [moved, taken, Option.getD_none]
    | some e' =>
      obtain ⟨s, r, _, _, rfl⟩ := stepAt_some taken
      simp only [moved, taken, Option.getD_some]
  | _ => rfl

theorem table_after (e : Engine σ) (moves : List (Move σ)) : (e.after moves).table = e.table := by
  induction moves generalizing e with
  | nil => rfl
  | cons m rest ih => exact (ih (e.moved m)).trans (table_moved e m)

theorem parsed_after {e : Engine σ} (new : e.scripts = []) (moves : List (Move σ)) {i : Nat}
    {s : Script} (found : (e.after moves).scripts[i]? = some s) :
    ∃ source, s.program = Program.parse source := by
  induction moves using List.reverseRecOn generalizing s with
  | nil =>
    rw [show (e.after []).scripts = [] from new] at found
    cases found
  | append_singleton moves m ih =>
    rw [after_append] at found
    rcases script_moved found with ⟨s₀, was, fares⟩ | ⟨_, name, source, arguments, rfl⟩
    · obtain ⟨source, parsed⟩ := ih was
      exact ⟨source, fares.program.trans parsed⟩
    · exact ⟨source, rfl⟩

/-- Round-time is respected up to the delay. With builtin commands, and where no line refers to a
variable, a script sends a command only while no round-time is left, unless it has just sat out a
delay; then none was left when the delay began. -/
theorem sends_after_roundtime {config : Config} {world : World σ} {e : Engine σ}
    (created : Engine.create config [] world = .ok e) (moves : List (Move σ)) {i : Nat} {s : Script}
    (found : (e.after moves).scripts[i]? = some s) (literal : s.program.isLiteral = true)
    {q : Run σ} {command : Builtin} {arguments : String}
    (led : (e.after moves).leadsTo? i wake = some (q, command, arguments))
    (talks : command = .put ∨ command = .move) :
    Client.roundtime q.world.client q.world.now = 0 ∨ ∃ t, e.DelayedSince moves i t := by
  have new : e.scripts = [] := (create_ok created).2
  simp only [leadsTo?, found, Option.bind_some] at led
  have same := (Run.leadsTo_keeps led).roundtime (by decide) (by decide)
  obtain ⟨q₀, line, turn, way⟩ := Run.leadsTo_some led
  rw [table_after, create_table created] at way
  cases Run.turn_paced turn with
  | @execute _ asked aside present fit =>
    have program : q₀.script.program = s.program := (aside .identity (by decide)).2.1
    obtain ⟨index, _, here⟩ := Option.bind_eq_some_iff.mp present
    rw [program] at here
    rcases fit with instant | lapsed | ⟨t, delayed⟩
    · -- an instant line leads to no such command
      obtain ⟨source, parsed⟩ := parsed_after new moves found
      rw [expand_literal (Program.literal_of_command literal here)] at way
      rw [parsed] at here
      have member : command ∈ Builtin.throttled := by
        rcases talks with rfl | rfl <;> decide
      have slow := Program.instant_of_dispatch here way member
      rw [instant] at slow
      cases slow
    · rw [aside.roundtime (by decide) (by decide)] at lapsed
      exact .inl (same.trans lapsed)
    · exact .inr ⟨t, (delayedSince new moves found delayed).2⟩

/-- What happens to a script that sits out a delay when new round-time comes. -/
def rush : List (Move MemoryClient) :=
  [.start "hasty" "put look" [], .step 0 .message, .step 0 .message, .client { roundtime := 5 },
    .elapse 200]

/-- An engine whose scripts wait for a fifth of a second before each command that talks to the game.
-/
def leisurely : Engine MemoryClient :=
  { table := .standard, config := { delay := 0.2 }, world := { client := {} } }

theorem leisurely_facts :
    ((leisurely.after rush).scripts[0]?).map (fun s : Script => s.program.isLiteral) = some true ∧
    ((leisurely.after rush).leadsTo? 0 .deadline).map (fun (q, command, arguments) =>
      (Client.roundtime q.world.client q.world.now, command, arguments)) =
        some (5, .put, "look") := by
  decide +kernel

theorem sends_during_roundtime : ∃ (s : Script) (q : Run MemoryClient),
    Engine.create { delay := 0.2 } [] { client := ({} : MemoryClient) } = .ok leisurely ∧
      (leisurely.after rush).scripts[0]? = some s ∧ s.program.isLiteral = true ∧
      (leisurely.after rush).leadsTo? 0 .deadline = some (q, .put, "look") ∧
      Client.roundtime q.world.client q.world.now = 5 := by
  obtain ⟨first, second⟩ := leisurely_facts
  obtain ⟨s, found, literal⟩ := Option.map_eq_some_iff.mp first
  obtain ⟨⟨q, command, arguments⟩, led, values⟩ := Option.map_eq_some_iff.mp second
  obtain ⟨left, values⟩ := Prod.mk.inj values
  obtain ⟨rfl, rfl⟩ := Prod.mk.inj values
  exact ⟨s, q, rfl, found, literal, led, left⟩

theorem sends_after_roundtime_rush : ∃ t, leisurely.DelayedSince rush 0 t := by
  obtain ⟨first, second⟩ := leisurely_facts
  obtain ⟨s, found, literal⟩ := Option.map_eq_some_iff.mp first
  obtain ⟨⟨q, command, arguments⟩, led, values⟩ := Option.map_eq_some_iff.mp second
  obtain ⟨left, values⟩ := Prod.mk.inj values
  obtain ⟨rfl, rfl⟩ := Prod.mk.inj values
  have created : Engine.create { delay := 0.2 } [] { client := ({} : MemoryClient) } =
      .ok leisurely := rfl
  rcases sends_after_roundtime created rush found literal led (.inl rfl) with lapsed | since
  · rw [lapsed] at left
    cases left
  · exact since

end Engine

end Questline
