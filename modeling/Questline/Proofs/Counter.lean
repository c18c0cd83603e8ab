import Questline.Proofs.Jumps

/-! The counter of a script. It is written from many places: by a line that comes to its end, by
jumps of the script and from outside, by calls made long ago. All of them write an index that holds
a command or none at all, and where nothing jumps the commands follow each other in the order of
their lines. -/
namespace Questline

variable {σ : Type} {wake : Wake}

/-- Where a script is and where it goes next there are commands, and until a line is executed the
next one is the one behind it. -/
structure Script.Counted (s : Script) : Prop where
  cursor : s.program.Points s.cursor
  next : s.program.Points s.next
  early : ∀ w, s.phase = .waiting w → w.isOwn = false → s.next = s.line.bind s.program.next?

theorem Script.Counted.of_free {s : Script} (free : s.isWaiting = false)
    (cursor : s.program.Points s.cursor) (next : s.program.Points s.next) : s.Counted where
  cursor := cursor
  next := next
  early w waits := absurd waits (not_waiting free w)

theorem Script.free_of_isEnding {s : Script} (ending : s.isEnding) : s.isWaiting = false := by
  unfold isEnding at ending
  unfold isWaiting
  cases phase : s.phase <;> simp_all

namespace Run

structure Steady (r q : Run σ) : Prop where
  program : q.script.program = r.script.program
  cursor : q.script.cursor = r.script.cursor
  line : q.script.line = r.script.line
  next : q.script.next = r.script.next
  state : q.script.state = r.script.state

theorem Steady.trans {r q q' : Run σ} (first : Steady r q) (second : Steady q q') : Steady r q' where
  program := second.program.trans first.program
  cursor := second.cursor.trans first.cursor
  line := second.line.trans first.line
  next := second.next.trans first.next
  state := second.state.trans first.state

theorem Steady.of_keeps {parts : List Part} {r q : Run σ} (kept : Keeps parts r q)
    (aside : ∀ p ∈ [Part.identity, .position, .next, .state], p ∉ parts) : Steady r q := by
  obtain ⟨_, _, _, cursor, line⟩ := kept .position (aside _ (by decide))
  exact ⟨(kept .identity (aside _ (by decide))).2.1, cursor, line, kept .next (aside _ (by decide)),
    kept .state (aside _ (by decide))⟩

theorem Steady.isActive {r q : Run σ} (steady : Steady r q) :
    q.script.isActive = r.script.isActive := by
  rw [Script.isActive, Script.isActive, steady.state]

/-- How a script has come to the line that it is about to execute: it waited there, or it has just
taken it up. -/
inductive Arrives (r q : Run σ) : Prop
  | again {w : Wait} (waits : r.script.phase = .waiting w) (early : w.isOwn = false)
      (steady : Steady r q)
  | anew {index : Nat} (ready : r.script.phase = .ready)
      (program : q.script.program = r.script.program) (state : q.script.state = r.script.state)
      (cursor : q.script.cursor = some index) (present : (r.script.program.command? index).isSome)
      (line : q.script.line = some index) (next : q.script.next = r.script.program.next? index)
      (due : r.script.pendingJump? = none → r.script.cursor = some index)

variable [Client σ]

/-- What the next step of a script comes to, as far as its counter goes. -/
inductive Rolls (table : CommandTable) (wake : Wake) (r : Run σ) : Turn σ → Prop
  | launch (fresh : r.script.phase = .fresh) : Rolls table wake r (.ended r.launch)
  | halt {q : Run σ} (ending : q.script.isEnding) (program : q.script.program = r.script.program)
      (next : q.script.next = r.script.next) (cursor : r.script.program.Points q.script.cursor) :
      Rolls table wake r (.ended q)
  | stay {q : Run σ} {w w' : Wait} (waits : r.script.phase = .waiting w)
      (waits' : q.script.phase = .waiting w') (same : w'.isOwn = w.isOwn) (steady : Steady r q) :
      Rolls table wake r (.ended q)
  /-- A wait ends without any further effect, before its line only for a message. -/
  | leave {q : Run σ} {w : Wait} (waits : r.script.phase = .waiting w) (steady : Steady r q)
      (told : w.isOwn = false → r.script.pendingJump?.isSome ∨ .stop ∈ r.script.controls) :
      Rolls table wake r (.ended q.moveOn)
  | meets {w : Wait} {result : Run σ × Outcome} (waits : r.script.phase = .waiting w)
      (own : w.isOwn = true) (kept : Keeps [.locals, .log, .next, .stream] r result.1)
      (steers : Steers (r.Jumps table wake) r result.1) (isOver : result.2.isOver = true) :
      Rolls table wake r (.ended (conclude result))
  | comes {q : Run σ} {t : Turn σ} (arrives : Arrives r q) (stands : Stands q t) :
      Rolls table wake r t

variable {table : CommandTable} {r : Run σ}

theorem enter_rolls {q : Run σ} (ready : r.script.phase = .ready)
    (program : q.script.program = r.script.program) (next : q.script.next = r.script.next)
    (state : q.script.state = r.script.state) (points : r.script.program.Points q.script.cursor)
    (due : r.script.pendingJump? = none → r.script.cursor = q.script.cursor) :
    Rolls table wake r q.enter := by
  unfold enter
  split
  · exact .halt rfl program next points
  · next index cursor =>
    rw [cursor] at points due
    obtain ⟨command, present⟩ := Option.isSome_iff_exists.mp points
    unfold takeUp
    rw [program]
    simp only [present]
    exact .comes (q := { q with script := { q.script with line := some index, next := _ } })
      (.anew ready program state cursor points rfl rfl due) (approach_stands _)

theorem proceed_rolls (counted : r.script.Counted) (ready : r.script.phase = .ready) :
    Rolls table wake r r.proceed := by
  have halts : ∀ q : Run σ, q.script.program = r.script.program → q.script.next = r.script.next →
      q.script.cursor = r.script.cursor → Rolls table wake r (.ended q.finish) :=
    fun q program next cursor => .halt rfl program next (cursor ▸ counted.cursor)
  unfold proceed
  split
  · exact halts r rfl rfl rfl
  · simp only
    split
    · exact halts _ rfl rfl rfl
    · split
      · exact enter_rolls ready rfl rfl rfl counted.cursor fun _ => rfl
      · next label asked =>
        split
        · next target resolved =>
          have points := Program.points_of_resolve resolved
          refine enter_rolls ready rfl rfl rfl points fun unasked => ?_
          cases unasked.symm.trans asked
        · exact halts _ rfl rfl rfl

theorem heed_rolls {w : Wait} {message : Control} {rest : List Control}
    (waits : r.script.phase = .waiting w) (asked : r.script.controls = message :: rest) :
    Rolls table .message r (r.heed w message rest) := by
  have released : ∀ q : Run σ, Steady r q → Steady r (q.release w) :=
    fun q steady => steady.trans (.of_keeps (release_keeps q w) (by decide))
  cases message with
  | stop =>
    refine .leave waits (released _ ⟨rfl, rfl, rfl, rfl, rfl⟩) fun _ => .inr ?_
    rw [asked]
    exact List.mem_cons_self
  | goto label =>
    refine .leave waits (released _ ⟨rfl, rfl, rfl, rfl, rfl⟩) fun _ => .inl ?_
    rw [Script.pendingJump?, asked]
    exact poll_isSome rfl rest
  | resume =>
    cases w with
    | parked =>
      exact .comes (q := { r with script := { r.script with controls := rest } })
        (.again waits rfl ⟨rfl, rfl, rfl, rfl, rfl⟩) (approach_stands _)
    | _ => exact .stay waits waits rfl ⟨rfl, rfl, rfl, rfl, rfl⟩

theorem expire_rolls {w : Wait} (waits : r.script.phase = .waiting w)
    (placed : w.isOwn = false → r.script.command?.isSome) (due : r.isDue w.deadline? = true) :
    Rolls table .deadline r (r.expire w) := by
  have here : Steady r r := ⟨rfl, rfl, rfl, rfl, rfl⟩
  have released : Steady r (r.release w) := .of_keeps (release_keeps r w) (by decide)
  cases w with
  | roundtime _ => exact .comes (.again waits rfl here) (throttle_stands (placed rfl))
  | delay _ => exact .comes (.again waits rfl here) (arrive_stands (placed rfl))
  | parked => cases due
  | hit id pending deadline =>
    refine .leave waits (.of_keeps ((release_keeps r _).trans (trace_keeps _ 1 _)) (by decide)) ?_
    exact nofun
  | _ => exact .leave waits released nofun

theorem wake_rolls {w : Wait} {t : Turn σ} (waits : r.script.phase = .waiting w)
    (placed : w.isOwn = false → r.script.command?.isSome) (woken : r.wake? w wake = some t) :
    Rolls table wake r t := by
  cases wake with
  | message =>
    simp only [wake?] at woken
    split at woken
    · next asked =>
      cases woken
      exact heed_rolls waits asked
    · cases woken
  | event =>
    obtain ⟨id, event, stream, listens, taken, rfl⟩ := wake_event woken
    have own : w.isOwn = true := by
      cases w <;> first | rfl | cases listens
    have heard : Steady r (r.withStream stream) := .of_keeps (withStream_keeps r stream) (by decide)
    cases met : (r.withStream stream).meet w event with
    | some result =>
      obtain ⟨kept, isOver⟩ := meet_some met
      have way := ((withStream_keeps r stream).trans (release_keeps _ w)).trans kept
      exact .meets waits own (way.mono (by decide)) (meet_steers waits rfl listens taken met) isOver
    | none => exact .stay waits waits rfl heard
  | deadline =>
    simp only [wake?] at woken
    split at woken
    · next due =>
      cases woken
      exact expire_rolls waits placed due
    · cases woken

theorem turn_rolls (table : CommandTable) {t : Turn σ} (attentive : r.script.Attentive)
    (counted : r.script.Counted) (turn : r.turn? wake = some t) : Rolls table wake r t := by
  unfold turn? at turn
  split at turn
  · next fresh =>
    cases turn
    exact .launch fresh
  · next ready =>
    cases turn
    exact proceed_rolls counted ready
  · next w waits => exact wake_rolls waits (attentive.placed w waits) turn
  · cases turn
    exact .halt rfl rfl rfl counted.cursor
  · cases turn
    exact .halt rfl rfl rfl counted.cursor
  · cases turn

/-! ### The counter points at commands -/

omit [Client σ] in
theorem conclude_counted {result : Run σ × Outcome} (own : result.2.isOwn = true)
    (cursor : result.1.script.program.Points result.1.script.cursor)
    (next : result.1.script.program.Points result.1.script.next) :
    (conclude result).script.Counted := by
  obtain ⟨q, outcome⟩ := result
  cases outcome with
  | done => exact .of_free rfl next next
  | interrupted => exact .of_free rfl next next
  | waiting w =>
    refine ⟨cursor, next, fun w' waits early => ?_⟩
    cases waits
    cases early.symm.trans own
  | crashed => exact .of_free rfl cursor next
  | fault f =>
    have reported : Steady q (q.report f) := .of_keeps (report_keeps q f) (by decide)
    rw [← reported.program, ← reported.next] at next
    rw [← reported.program, ← reported.cursor] at cursor
    simp only [conclude, handleFault]
    split
    · exact .of_free rfl cursor next
    · exact .of_free rfl next next

omit [Client σ] in
theorem Arrives.counted {q : Run σ} (arrives : Arrives r q) (counted : r.script.Counted) :
    q.script.program = r.script.program ∧ q.script.state = r.script.state ∧
      r.script.program.Points q.script.cursor ∧
      q.script.next = q.script.line.bind r.script.program.next? := by
  cases arrives with
  | again waits early steady =>
    refine ⟨steady.program, steady.state, ?_, ?_⟩
    · rw [steady.cursor]
      exact counted.cursor
    · rw [steady.next, steady.line]
      exact counted.early _ waits early
  | anew _ program state cursor present line next _ =>
    refine ⟨program, state, ?_, ?_⟩
    · rw [cursor]
      exact present
    · rw [next, line, Option.bind_some]

omit [Client σ] in
theorem Arrives.present {q : Run σ} (arrives : Arrives r q) (attentive : r.script.Attentive) :
    q.script.command?.isSome := by
  cases arrives with
  | again waits early steady =>
    rw [Script.command?, steady.line, steady.program]
    exact attentive.placed _ waits early
  | anew _ program _ _ present line _ _ =>
    rw [Script.command?, line, program]
    exact present

theorem step_counted {r' : Run σ} (attentive : r.script.Attentive)
    (stepped : r.step? table wake = some r') (counted : r.script.Counted) : r'.script.Counted := by
  rcases step_cases stepped with turn | ⟨q, line, turn, rfl⟩
  · cases turn_rolls table attentive counted turn with
    | launch =>
      have program : r.launch.script.program = r.script.program :=
        (launch_keeps r .identity (by decide)).2.1
      have next : r.launch.script.next = r.script.next := launch_keeps r .next (by decide)
      refine .of_free rfl (r.launch.script.program.points_firstAt 0) ?_
      rw [program, next]
      exact counted.next
    | halt ending program next cursor =>
      refine .of_free (Script.free_of_isEnding ending) (program ▸ cursor) ?_
      rw [program, next]
      exact counted.next
    | stay waits waits' same steady =>
      obtain ⟨program, cursor, line, next, _⟩ := steady
      refine ⟨?_, ?_, fun w there early => ?_⟩
      · rw [program, cursor]
        exact counted.cursor
      · rw [program, next]
        exact counted.next
      · cases waits'.symm.trans there
        rw [program, next, line]
        exact counted.early _ waits (same.symm.trans early)
    | leave _ steady _ =>
      obtain ⟨program, _, _, next, _⟩ := steady
      have points := counted.next
      rw [← program, ← next] at points
      exact .of_free rfl points points
    | meets _ _ kept steers isOver =>
      refine conclude_counted (Outcome.isOwn_of_isOver isOver) ?_ (steers.points counted.next)
      obtain ⟨_, _, _, cursor, _⟩ := kept .position (by decide)
      rw [steers.program, cursor]
      exact counted.cursor
    | comes arrives stands =>
      obtain ⟨program, _, cursor, next⟩ := arrives.counted counted
      rw [← program] at cursor next
      have points := next ▸ Program.points_behind _ _
      cases stands with
      | wait _ _ => exact ⟨cursor, points, fun _ _ _ => next⟩
      | pass _ => exact .of_free rfl points points
  · cases turn_rolls table attentive counted turn with
    | comes arrives stands =>
      cases stands with
      | @execute command _ _ =>
        obtain ⟨program, _, cursor, next⟩ := arrives.counted counted
        rw [← program] at cursor next
        have points := next ▸ Program.points_behind _ _
        have steers := execute_steers table turn
        have position :=
          execute_position table q (expand q.script.vars q.around command.text).toList
        refine conclude_counted (execute_isOwn table q _) ?_ (steers.points points)
        rw [steers.program, position.2.2.2.1]
        exact cursor

end Run

/-- Whoever handles a script leaves it where it is, and starts none that has come to its end. -/
theorem Script.Handled.place {s s' : Script} (handled : s.Handled s') :
    s'.program = s.program ∧ s'.phase = s.phase ∧ s'.cursor = s.cursor ∧ s'.line = s.line ∧
      s'.next = s.next ∧ (s.isActive = false → s'.isActive = false) := by
  cases handled with
  | idle => exact ⟨rfl, rfl, rfl, rfl, rfl, id⟩
  | stop =>
    unfold Script.stop
    split
    · exact ⟨rfl, rfl, rfl, rfl, rfl, id⟩
    · exact ⟨rfl, rfl, rfl, rfl, rfl, fun _ => rfl⟩
  | suspend =>
    unfold Script.suspend
    split
    · next running =>
      refine ⟨rfl, rfl, rfl, rfl, rfl, fun inactive => ?_⟩
      simp [isActive, running] at inactive
    · exact ⟨rfl, rfl, rfl, rfl, rfl, id⟩
  | resume =>
    unfold Script.resume
    split
    · next suspended =>
      refine ⟨rfl, rfl, rfl, rfl, rfl, fun inactive => ?_⟩
      simp [isActive, suspended] at inactive
    · exact ⟨rfl, rfl, rfl, rfl, rfl, id⟩
  | goto label =>
    unfold Script.requestGoto
    split <;> exact ⟨rfl, rfl, rfl, rfl, rfl, id⟩

theorem Script.Handled.counted {s s' : Script} (handled : s.Handled s') (counted : s.Counted) :
    s'.Counted := by
  obtain ⟨program, phase, cursor, line, next, _⟩ := handled.place
  obtain ⟨cursor', next', early⟩ := counted
  constructor
  · rw [program, cursor]
    exact cursor'
  · rw [program, next]
    exact next'
  · rw [program, phase, next, line]
    exact early

theorem Engine.Reachable.counted [Client σ] {e : Engine σ} (reachable : e.Reachable) {i : Nat}
    {s : Script} (found : e.scripts[i]? = some s) : s.Counted := by
  have both : s.Attentive ∧ s.Counted := by
    refine reachable.invariant (P := fun s => s.Attentive ∧ s.Counted) ?_ ?_ ?_ found
    · intro config name source arguments
      exact ⟨.of_free rfl (fun told => by cases told), .of_free rfl trivial trivial⟩
    · exact fun handled holds => ⟨handled.attentive holds.1, handled.counted holds.2⟩
    · exact fun stepped holds =>
        ⟨Run.step_attentive stepped holds.1, Run.step_counted holds.1 stepped holds.2⟩
  exact both.2

/-! ### One command after the other -/

def Script.Spent (s : Script) : Prop := s.isEnding ∨ s.isActive = false

/-- What has become of a script since it executed the line at an index, with no jump since: the
command goes on, or the script is before the first command behind it, or waits for its turn there.
-/
inductive Script.Behind (index : Nat) (s : Script) : Prop
  | during {w : Wait} (waits : s.phase = .waiting w) (own : w.isOwn = true)
      (next : s.next = s.program.next? index)
  | before (ready : s.phase = .ready) (cursor : s.cursor = s.program.next? index)
  | turn {w : Wait} (waits : s.phase = .waiting w) (early : w.isOwn = false)
      (line : s.line = s.program.next? index)
  | spent (spent : s.Spent)

namespace Run

variable {index : Nat}

theorem conclude_behind {result : Run σ × Outcome} (own : result.2.isOwn = true)
    (next : result.1.script.next = result.1.script.program.next? index) :
    (conclude result).script.Behind index := by
  obtain ⟨q, outcome⟩ := result
  cases outcome with
  | done => exact .before rfl next
  | interrupted => exact .before rfl next
  | waiting w => exact .during rfl own next
  | crashed => exact .spent (.inl rfl)
  | fault f =>
    have reported : Steady q (q.report f) := .of_keeps (report_keeps q f) (by decide)
    simp only [conclude, handleFault]
    split
    · exact .spent (.inl rfl)
    · refine .before rfl ?_
      simp only [moveOn]
      rw [reported.next, reported.program]
      exact next

variable [Client σ] {table : CommandTable} {r r' : Run σ}

theorem silent_of_spent (spent : r.script.Spent) : r.dispatches? wake = none := by
  rw [dispatches_none]
  intro q line turn
  rcases spent with ending | inactive
  · obtain ⟨_, impossible, _⟩ := turn_ending ending turn
    cases impossible
  · obtain ⟨_, _, _, running, aside⟩ := execute_turn turn
    have state : q.script.state = r.script.state := aside .state (by decide)
    rw [Script.isActive, ← state, running] at inactive
    cases inactive

theorem step_spent (attentive : r.script.Attentive) (stepped : r.step? table wake = some r')
    (spent : r.script.Spent) : r'.script.Spent := by
  rcases step_cases stepped with turn | ⟨q, line, turn, rfl⟩
  · rcases ended_state attentive turn with same | ⟨_, ending⟩
    · rcases spent with ending | inactive
      · obtain ⟨_, done, ended⟩ := turn_ending ending turn
        cases done
        exact .inl ended
      · refine .inr ?_
        rw [Script.isActive, same]
        exact inactive
    · exact .inl ending
  · exact absurd turn (dispatches_none.mp (silent_of_spent spent) q line)

theorem step_behind (attentive : r.script.Attentive) (counted : r.script.Counted)
    (stepped : r.step? table wake = some r') (straight : ¬ r.Jumps table wake)
    (dispatched : r.dispatches? wake = some index) : r'.script.Behind index := by
  rcases step_cases stepped with turn | ⟨q, line, turn, rfl⟩
  · rw [dispatches_ended turn] at dispatched
    cases dispatched
  · have here : q.script.line = some index := by
      simpa only [dispatches?, turn] using dispatched
    have steers := execute_steers table turn
    cases turn_rolls table attentive counted turn with
    | comes arrives stands =>
      cases stands with
      | execute =>
        obtain ⟨program, _, _, next⟩ := arrives.counted counted
        rw [here, Option.bind_some, ← program] at next
        apply conclude_behind (execute_isOwn table q _)
        rw [steers.next_of_not straight, steers.program]
        exact next

omit [Client σ] in
/-- Behind a line a script comes to the first command that follows, unless it is asked to jump. -/
theorem Arrives.behind {q : Run σ} (arrives : Arrives r q) (behind : r.script.Behind index)
    (unspent : ¬ r.script.Spent) (unasked : r.script.pendingJump? = none) :
    q.script.line = q.script.program.next? index := by
  cases arrives with
  | again waits early steady =>
    cases behind with
    | during waits' own =>
      cases waits.symm.trans waits'
      cases early.symm.trans own
    | before ready => cases waits.symm.trans ready
    | turn _ _ line =>
      rw [steady.line, steady.program]
      exact line
    | spent spent => exact absurd spent unspent
  | anew ready program _ _ _ line _ due =>
    cases behind with
    | during waits => cases ready.symm.trans waits
    | before _ cursor =>
      rw [line, program, ← due unasked]
      exact cursor
    | turn waits => cases ready.symm.trans waits
    | spent spent => exact absurd spent unspent

theorem ended_behind (attentive : r.script.Attentive) (counted : r.script.Counted)
    (turn : r.turn? wake = some (.ended r')) (straight : ¬ r.Jumps table wake)
    (unspent : ¬ r.script.Spent) (unasked : r.script.pendingJump? = none)
    (behind : r.script.Behind index) : r'.script.Behind index := by
  cases turn_rolls table attentive counted turn with
  | launch fresh =>
    cases behind with
    | during waits => cases fresh.symm.trans waits
    | before ready => cases fresh.symm.trans ready
    | turn waits => cases fresh.symm.trans waits
    | spent spent => exact absurd spent unspent
  | halt ending => exact .spent (.inl ending)
  | stay waits waits' same steady =>
    obtain ⟨program, _, line, next, _⟩ := steady
    cases behind with
    | during there own next' =>
      cases waits.symm.trans there
      exact .during waits' (same.trans own) (by rw [next, program]; exact next')
    | before ready => cases waits.symm.trans ready
    | turn there early line' =>
      cases waits.symm.trans there
      exact .turn waits' (same.trans early) (by rw [line, program]; exact line')
    | spent spent => exact absurd spent unspent
  | leave waits steady told =>
    cases behind with
    | during there own next =>
      refine .before rfl ?_
      simp only [moveOn]
      rw [steady.next, steady.program]
      exact next
    | before ready => cases waits.symm.trans ready
    | turn there early _ =>
      -- only the message to stop makes it leave before its line
      cases waits.symm.trans there
      have stop := (told early).resolve_left (by simp [unasked])
      have state := steady.state.trans (attentive.obedient stop)
      refine .spent (.inr ?_)
      simp only [moveOn, Script.isActive, state]
      rfl
    | spent spent => exact absurd spent unspent
  | meets waits own kept steers isOver =>
    cases behind with
    | during there _ next =>
      apply conclude_behind (Outcome.isOwn_of_isOver isOver)
      rw [steers.next_of_not straight, steers.program]
      exact next
    | before ready => cases waits.symm.trans ready
    | turn there early =>
      cases waits.symm.trans there
      cases early.symm.trans own
    | spent spent => exact absurd spent unspent
  | comes arrives stands =>
    have here := arrives.behind behind unspent unasked
    cases stands with
    | wait early _ => exact .turn rfl early here
    | pass idle => exact .spent (.inr (idle (arrives.present attentive)))

theorem dispatch_in_order {next : Nat} (attentive : r.script.Attentive)
    (counted : r.script.Counted) (unasked : r.script.pendingJump? = none)
    (behind : r.script.Behind index) (dispatched : r.dispatches? wake = some next) :
    r.script.program.next? index = some next := by
  have unspent : ¬ r.script.Spent := by
    intro spent
    cases dispatched.symm.trans (silent_of_spent spent)
  unfold dispatches? at dispatched
  split at dispatched
  · next q line turn =>
    cases turn_rolls .standard attentive counted turn with
    | comes arrives stands =>
      cases stands with
      | execute =>
        obtain ⟨program, _⟩ := arrives.counted counted
        have here := arrives.behind behind unspent unasked
        rw [← program, ← here]
        exact dispatched
  · cases dispatched

/-- A step without a jump, while none is asked for: the script is behind the line as before, or it
executes the first command that follows. -/
theorem step_in_order (attentive : r.script.Attentive) (counted : r.script.Counted)
    (stepped : r.step? table wake = some r') (straight : ¬ r.Jumps table wake)
    (unasked : r.script.pendingJump? = none) (behind : r.script.Behind index)
    (silent : r.dispatches? wake = none) : r'.script.Behind index := by
  by_cases spent : r.script.Spent
  · exact .spent (step_spent attentive stepped spent)
  · rcases step_cases stepped with turn | ⟨q, line, turn, rfl⟩
    · exact ended_behind attentive counted turn straight spent unasked behind
    · exact absurd turn (dispatches_none.mp silent q line)

end Run

theorem Script.Behind.handled {index : Nat} {s s' : Script} (behind : s.Behind index)
    (handled : s.Handled s') : s'.Behind index := by
  obtain ⟨program, phase, cursor, line, next, idle⟩ := handled.place
  cases behind with
  | during waits own next' =>
    exact .during (phase.trans waits) own (by rw [next, program]; exact next')
  | before ready cursor' =>
    exact .before (phase.trans ready) (by rw [cursor, program]; exact cursor')
  | turn waits early line' =>
    exact .turn (phase.trans waits) early (by rw [line, program]; exact line')
  | spent spent =>
    refine .spent (spent.imp (fun ending => ?_) idle)
    rw [isEnding, phase]
    exact ending

namespace Run

variable [Client σ]

/-! ### Lines without a command -/

/-- Takes up the line at an index, where `skip` says what becomes of one without a command. -/
def takeUpOr (skip : Run σ → Nat → Turn σ) (r : Run σ) (index : Nat) : Turn σ :=
  match r.script.program.command? index with
  | none => skip r index
  | some _ =>
    { r with script := { r.script with
        line := some index, next := r.script.program.next? index } }.approach

def enterOr (skip : Run σ → Nat → Turn σ) (r : Run σ) : Turn σ :=
  match r.script.cursor with
  | none => .ended r.finish
  | some index => r.takeUpOr skip index

/-- One round of the loop over lines, where `skip` says what becomes of a line without a command. -/
def proceedOr (skip : Run σ → Nat → Turn σ) (r : Run σ) : Turn σ :=
  if !r.script.isActive then .ended r.finish
  else
    let (stopped, label, controls) := poll r.script.requestedLabel r.script.controls
    let r := { r with script := { r.script with requestedLabel := label, controls } }
    if stopped then .ended r.finish
    else
      match label with
      | none => r.enterOr skip
      | some label =>
        let r := { r with script := { r.script with requestedLabel := none } }
        match r.script.program.resolve label with
        | .ok target => { r with script := { r.script with cursor := target.line } }.enterOr skip
        | .error f => .ended (r.report f).finish

/-- The loop goes on with the line behind one without a command. -/
theorem proceed_eq (r : Run σ) : r.proceed = r.proceedOr fun r index =>
    .ended { r with script := { r.script with cursor := r.script.program.next? index } } := rfl

theorem enterOr_eq {skip : Run σ → Nat → Turn σ} {r : Run σ}
    (points : r.script.program.Points r.script.cursor) : r.enterOr skip = r.enter := by
  unfold enterOr enter
  cases cursor : r.script.cursor with
  | none => rfl
  | some index =>
    rw [cursor] at points
    obtain ⟨command, present⟩ := Option.isSome_iff_exists.mp points
    simp only [takeUpOr, takeUp, present]

/-- What the loop does with a line without a command makes no difference: it never comes to one. -/
theorem proceedOr_eq {skip : Run σ → Nat → Turn σ} {r : Run σ} (counted : r.script.Counted) :
    r.proceedOr skip = r.proceed := by
  unfold proceedOr proceed
  generalize poll r.script.requestedLabel r.script.controls = polled
  obtain ⟨stopped, label, controls⟩ := polled
  split
  · rfl
  · simp only
    split
    · rfl
    · cases label with
      | none => exact enterOr_eq counted.cursor
      | some label =>
        cases resolved : r.script.program.resolve label with
        | error f => simp only [resolved]
        | ok target =>
          simp only [resolved]
          exact enterOr_eq (Program.points_of_resolve resolved)

end Run

namespace Engine

variable [Client σ]

/-- The label of a jump that the script at an index has been asked for and has not made yet. -/
def pendingJump? (e : Engine σ) (i : Nat) : Option String :=
  (e.scripts[i]?).bind Script.pendingJump?

/-- The script at an index jumps in its next step, if it is woken in some way. -/
def Jumps (e : Engine σ) (i : Nat) (wake : Wake) : Prop :=
  ∃ s, e.scripts[i]? = some s ∧ Run.Jumps e.table wake ⟨s, e.world⟩

def Straight (i : Nat) (e : Engine σ) (moves : List (Move σ)) : Prop :=
  e.Each (fun e m => ∀ wake, m = .step i wake → ¬ e.Jumps i wake) moves

theorem Throughout.last {p : Engine σ → Prop} {e : Engine σ} {moves : List (Move σ)}
    (holds : Throughout p e moves) : p (e.after moves) := by
  induction moves generalizing e with
  | nil => exact holds
  | cons m rest ih => exact ih holds.2

/-- As long as a script executes no line, does not jump and is not asked to, it stays behind the
line that it executed last. -/
theorem behind_after {e : Engine σ} (reachable : e.Reachable) {i index : Nat} {s : Script}
    (found : e.scripts[i]? = some s) (behind : s.Behind index) {moves : List (Move σ)}
    (silent : along (dispatches i) e moves = []) (straight : e.Straight i moves)
    (unasked : e.Throughout (fun e => e.pendingJump? i = none) moves) :
    ∃ s', (e.after moves).scripts[i]? = some s' ∧ s'.program = s.program ∧ s'.Behind index := by
  induction moves generalizing e s with
  | nil => exact ⟨s, found, rfl, behind⟩
  | cons m rest ih =>
    obtain ⟨here, later⟩ := List.append_eq_nil_iff.mp silent
    obtain ⟨s₁, found₁, fares⟩ := script_fares found m
    have behind₁ : s₁.Behind index := by
      cases fares with
      | aside handled => exact behind.handled handled
      | step own stepped =>
        subst own
        have calm : s.pendingJump? = none := by
          simpa only [pendingJump?, found, Option.bind_some] using unasked.first
        rw [dispatches_step found, Option.toList_eq_nil_iff] at here
        exact Run.step_in_order (reachable.attentive found) (reachable.counted found) stepped
          (fun jumps => straight.1 _ rfl ⟨s, found, jumps⟩) calm behind here
    obtain ⟨s', last, program, behind'⟩ :=
      ih (reachable.move m) found₁ behind₁ later straight.2 unasked.2
    exact ⟨s', last, program.trans fares.program, behind'⟩

/-- The counter of a script always points at a command or ends the script: the cursor and the line
that comes next do, also right after a command. So the loop, which goes on with the line behind one
without a command, never comes to such a line, and what it does there makes no difference. A command
that does not jump is followed by the first one behind it, unless a jump is asked for from outside:
that is where the cursor is once the command is over, and what the script executes next. -/
theorem counter_points_at_commands {e : Engine σ} (reachable : e.Reachable) {i : Nat} {s : Script}
    (found : e.scripts[i]? = some s) :
    (s.program.Points s.cursor ∧ s.program.Points s.next) ∧
    (∀ wake q line, Run.turn? ⟨s, e.world⟩ wake = some (.execute q line) →
      s.program.Points (q.execute e.table line.toList).1.script.next) ∧
    (∀ r : Run σ, r.proceed = r.proceedOr fun r index =>
      .ended { r with script := { r.script with cursor := r.script.program.next? index } }) ∧
    (s.phase = .ready → ∀ skip, Run.proceedOr skip ⟨s, e.world⟩ = Run.proceed ⟨s, e.world⟩) ∧
    ∀ wake index between, let e₁ := e.moved (.step i wake)
      dispatches i e (.step i wake) = [index] → along (dispatches i) e₁ between = [] →
      e.Straight i (.step i wake :: between) →
      e₁.Throughout (fun e => e.pendingJump? i = none) between →
      (∀ s', (e₁.after between).scripts[i]? = some s' → s'.phase = .ready →
        s'.isActive → s.program.IsFirstFrom (index + 1) s'.cursor) ∧
      ∀ wake' next, dispatches i (e₁.after between) (.step i wake') = [next] →
        s.program.IsFirstFrom (index + 1) (some next) := by
  have attentive := reachable.attentive found
  have counted := reachable.counted found
  refine ⟨⟨counted.cursor, counted.next⟩, ?_, Run.proceed_eq,
    fun _ _ => Run.proceedOr_eq counted, ?_⟩
  · intro wake q line turn
    have steers := Run.execute_steers e.table turn
    cases Run.turn_rolls e.table attentive counted turn with
    | comes arrives stands =>
      cases stands with
      | execute =>
        obtain ⟨program, _, _, next⟩ := arrives.counted counted
        have points := steers.points (by rw [next, program]; exact Program.points_behind _ _)
        rw [steers.program, program] at points
        exact points
  · intro wake index between
    dsimp only
    intro dispatched silent straight unasked
    rw [dispatches_step found, Option.toList_eq_singleton_iff] at dispatched
    obtain ⟨r, stepped⟩ : ∃ r, Run.step? e.table wake ⟨s, e.world⟩ = some r := by
      cases stepped : Run.step? e.table wake ⟨s, e.world⟩ with
      | some r => exact ⟨r, rfl⟩
      | none =>
        have none := dispatches_stuck found stepped
        rw [dispatches_step found, dispatched] at none
        cases none
    have behind := Run.step_behind attentive counted stepped
      (fun jumps => straight.1 _ rfl ⟨s, found, jumps⟩) dispatched
    obtain ⟨s', last, program, behind'⟩ := behind_after (reachable.move (.step i wake))
      (script_step found stepped) behind silent straight.2 unasked
    have same : s'.program = s.program := program.trans (Run.step_program stepped)
    have first := s.program.firstAt_isFirstFrom (index + 1)
    have reachable' := (reachable.move (.step i wake)).after between
    constructor
    · intro s'' found'' ready active
      cases last.symm.trans found''
      cases behind' with
      | during waits => cases ready.symm.trans waits
      | before _ cursor =>
        rw [cursor, same]
        exact first
      | turn waits => cases ready.symm.trans waits
      | spent spent =>
        rcases spent with ending | inactive
        · rw [Script.isEnding, ready] at ending
          cases ending
        · cases active.symm.trans inactive
    · intro wake' next dispatched'
      rw [dispatches_step last, Option.toList_eq_singleton_iff] at dispatched'
      have calm : s'.pendingJump? = none := by
        simpa only [pendingJump?, last, Option.bind_some] using unasked.last
      have follows := Run.dispatch_in_order (reachable'.attentive last) (reachable'.counted last)
        calm behind' dispatched'
      rw [same, Program.next?] at follows
      rw [follows] at first
      exact first

/-- Without custom commands a step jumps if it carries out a command that does, or ends the wait for
a match. -/
theorem not_jumps {e : Engine σ} {i : Nat} (standard : e.table = .standard)
    (stays : ∀ command, e.carriesOut? i wake = some command → command.jumps = false)
    (unmatched : e.isAwaiting i = false) : ¬ e.Jumps i wake := by
  rintro ⟨s, found, jumps⟩
  cases jumps with
  | @command command done jumps =>
    have here : e.carriesOut? i wake = some command := by
      rw [carriesOut?, found]
      exact done
    rw [stays command here] at jumps
    cases jumps
  | custom turn asks =>
    obtain ⟨q, inner, label, _, asked⟩ := asks
    rw [standard, CommandTable.requests_standard] at asked
    cases asked
  | @hit id pending deadline _ _ waits =>
    have place : s.phase = .waiting (.hit id pending deadline) := waits
    simp [isAwaiting, found, Script.awaiting?, place, Wait.awaiting?] at unmatched

/-- A script that waits for a prompt on its first line, and has its next command on the fourth. -/
def walking : Engine MemoryClient :=
  (plain {}).after [.start "walk" "wait\n\n# remark\necho two" [], .step 0 .message]

theorem counter_points_at_commands_walking : ∃ s, walking.scripts[0]? = some s ∧
    s.program.Points s.cursor ∧
    (∀ skip, Run.proceedOr skip ⟨s, walking.world⟩ = Run.proceed ⟨s, walking.world⟩) ∧
    s.program.IsFirstFrom 1 (some 3) := by
  have reachable : walking.Reachable := by
    unfold walking
    exact (plain_reachable _).after _
  let between : List (Move MemoryClient) := [.publish .prompt, .step 0 .event]
  have facts : (walking.scripts[0]?).isSome ∧ dispatches 0 walking (.step 0 .message) = [0] ∧
      along (dispatches 0) (walking.moved (.step 0 .message)) between = [] ∧
      (walking.moved (.step 0 .message)).Throughout (fun e => e.pendingJump? 0 = none) between ∧
      dispatches 0 ((walking.moved (.step 0 .message)).after between) (.step 0 .message) = [3] ∧
      walking.carriesOut? 0 .message = none ∧ walking.isAwaiting 0 = false ∧
      (walking.after [.step 0 .message, .publish .prompt]).carriesOut? 0 .event = none ∧
      (walking.after [.step 0 .message, .publish .prompt]).isAwaiting 0 = false := by
    decide +kernel
  obtain ⟨there, first, silent, calm, second, idle, unmatched, idle', unmatched'⟩ := facts
  obtain ⟨s, found⟩ := Option.isSome_iff_exists.mp there
  have ready : s.phase = .ready := by
    have here : (walking.scripts[0]?).map (·.phase) = some .ready := rfl
    rw [found] at here
    exact Option.some.inj here
  have straight : walking.Straight 0 (.step 0 .message :: between) := by
    refine ⟨?_, nofun, ?_, trivial⟩
    · rintro wake same
      obtain ⟨_, rfl⟩ := Move.step.inj same
      refine not_jumps rfl (fun command done => ?_) unmatched
      cases idle.symm.trans done
    · rintro wake same
      obtain ⟨_, rfl⟩ := Move.step.inj same
      refine not_jumps rfl (fun command done => ?_) unmatched'
      cases idle'.symm.trans done
  obtain ⟨⟨cursor, _⟩, _, _, loop, onward⟩ := counter_points_at_commands reachable found
  exact ⟨s, found, cursor, loop ready,
    (onward .message 0 between first silent straight calm).2 .message 3 second⟩

end Engine

end Questline
