import Questline.Proofs.Attention

/-! The line that a script is bound for. It is settled by the place where the script stands and by
the jumps that it has been asked for, and the steps that the script takes on its way do not change
it. -/
namespace Questline

variable {σ : Type} {wake : Wake}

def Program.landing? (p : Program) (label : String) : Option Nat :=
  match p.resolve label with
  | .ok target => target.line
  | .error _ => none

namespace Script

/-- The label of the last jump that a script has been asked for and has not made yet. -/
def pendingJump? (s : Script) : Option String := (Run.poll s.requestedLabel s.controls).2.1

def heading? (s : Script) : Option Nat :=
  match s.pendingJump? with
  | some label => s.program.landing? label
  | none =>
    match s.phase with
    | .fresh => s.program.firstAt? 0
    | .ready => s.cursor.bind s.program.firstAt?
    | .waiting _ => s.line
    | _ => none

/-- Whether the line that a script is bound for is settled: it is asked for, or no command is
running that could still choose another one. -/
def isSettled (s : Script) : Bool :=
  s.pendingJump?.isSome ||
    match s.phase with
    | .fresh | .ready => true
    | .waiting w => !w.isOwn
    | _ => false

/-- A script is bound for a line. Only one that is parked can be running and yet have a jump to look
at, and then it does so before anything else. -/
structure Bound (target : Option Nat) (s : Script) : Prop where
  active : s.isActive
  heading : s.heading? = target
  asked : ∀ w, s.phase = .waiting w → w.isOwn → s.pendingJump?.isSome
  ahead : ∀ w, s.phase = .waiting w → s.state = .running → s.pendingJump?.isSome →
    w = .parked ∧ ∃ label rest, s.controls = .goto label :: rest

theorem Bound.of_free {target : Option Nat} {s : Script} (free : s.isWaiting = false)
    (active : s.isActive) (heading : s.heading? = target) : s.Bound target where
  active := active
  heading := heading
  asked w waits := absurd waits (not_waiting free w)
  ahead w waits := absurd waits (not_waiting free w)

/-- A script that is over with its wait is still bound for where it has been asked to go. -/
theorem Bound.of_asked {target : Option Nat} {s s' : Script} (bound : s.Bound target)
    (asked : s.pendingJump?.isSome) (free : s'.isWaiting = false)
    (controls : s'.controls = s.controls) (label : s'.requestedLabel = s.requestedLabel)
    (program : s'.program = s.program) (state : s'.state = s.state) : s'.Bound target := by
  obtain ⟨last, pending⟩ := Option.isSome_iff_exists.mp asked
  have same : s'.pendingJump? = some last := by
    simp only [pendingJump?, controls, label]
    exact pending
  refine .of_free free ?_ ?_
  · rw [isActive, state]
    exact bound.active
  · rw [← bound.heading, heading?, heading?, same, pending]
    simp only [program]

def Headed (target : Option Nat) (s : Script) : Prop := s.isEnding ∨ s.Bound target

end Script

namespace Run

theorem poll_isSome {label : Option String} (asked : label.isSome) (messages : List Control) :
    (poll label messages).2.1.isSome := by
  fun_induction poll label messages with
  | case1 => exact asked
  | case2 => exact asked
  | case3 label l rest ih => exact ih rfl
  | case4 label rest ih => exact ih asked

theorem poll_drained {messages : List Control} (unstopped : .stop ∉ messages)
    (label : Option String) : (poll label messages).2.2 = [] := by
  fun_induction poll label messages with
  | case1 => rfl
  | case2 => simp at unstopped
  | case3 label l rest ih => exact ih (by simpa using unstopped)
  | case4 label rest ih => exact ih (by simpa using unstopped)

theorem poll_append {messages : List Control} (unstopped : .stop ∉ messages)
    (label : Option String) (more : List Control) :
    poll label (messages ++ more) = poll (poll label messages).2.1 more := by
  induction messages generalizing label with
  | nil => rfl
  | cons message rest ih =>
    have unstopped' : .stop ∉ rest := fun member => unstopped (List.mem_cons_of_mem _ member)
    cases message with
    | stop => exact absurd List.mem_cons_self unstopped
    | goto l => exact ih unstopped' _
    | resume => exact ih unstopped' _

theorem pendingJump_idle {s : Script} (label : s.requestedLabel = none) (idle : s.controls = []) :
    s.pendingJump? = none := by
  simp only [Script.pendingJump?, label, idle, poll]

variable {target : Option Nat}

theorem launch_bound {r : Run σ} (fresh : r.script.phase = .fresh)
    (bound : r.script.Bound target) : r.launch.script.Bound target := by
  have state : r.launch.script.state = r.script.state := launch_keeps r .state (by decide)
  have program : r.launch.script.program = r.script.program :=
    (launch_keeps r .identity (by decide)).2.1
  obtain ⟨controls, label⟩ := launch_controls r
  have pending : r.launch.script.pendingJump? = r.script.pendingJump? := by
    simp only [Script.pendingJump?, controls, label]
  refine .of_free rfl ?_ ?_
  · rw [Script.isActive, state]
    exact bound.active
  · have begun : r.launch.script.phase = .ready := rfl
    have first : r.launch.script.cursor = r.launch.script.program.firstAt? 0 := rfl
    rw [← bound.heading]
    simp only [Script.heading?, pending, fresh, begun, first, program, Program.firstAt_firstAt]

theorem meet_bound {r : Run σ} {w : Wait} {event : GameEvent} {stream : Stream}
    {result : Run σ × Outcome} (bound : r.script.Bound target)
    (asked : r.script.pendingJump?.isSome)
    (met : (r.withStream stream).meet w event = some result) :
    (conclude result).script.Bound target := by
  obtain ⟨kept, isOver⟩ := meet_some met
  have way := ((withStream_keeps r stream).trans (release_keeps _ w)).trans kept
  obtain ⟨free, state⟩ := conclude_free (q := result.1) isOver
  obtain ⟨controls, label⟩ := conclude_controls result.1 result.2
  have position := way .position (by decide)
  have program := conclude_keeps result.1 result.2 .identity (by decide)
  exact bound.of_asked asked free (controls.trans position.1) (label.trans position.2.1)
    (program.2.1.trans (way .identity (by decide)).2.1) (state.trans (way .state (by decide)))

variable [Client σ]

/-- What a step comes to that a script takes on its way to a line: it is still on the way, or it
executes the line. -/
def Heads (target : Option Nat) : Turn σ → Prop
  | .ended q => q.script.Headed target
  | .execute q _ => ∃ x, q.script.line = some x ∧ target = some x

theorem Stands.heads {q : Run σ} {t : Turn σ} (stands : Stands q t) (active : q.script.isActive)
    (present : q.script.command?.isSome)
    (heading : ∀ w, (q.setPhase (.waiting w)).script.heading? = target)
    (ahead : q.script.state = .running → q.script.pendingJump? = none) : Heads target t := by
  cases stands with
  | wait early _ =>
    refine .inr ⟨active, heading _, fun w waits own => ?_, fun w _ running asked => ?_⟩
    · cases waits
      cases early.symm.trans own
    · change q.script.pendingJump?.isSome at asked
      rw [ahead running] at asked
      cases asked
  | pass idle => cases active.symm.trans (idle present)
  | execute running found =>
    obtain ⟨x, line, _⟩ := Option.bind_eq_some_iff.mp found
    refine ⟨x, line, ?_⟩
    have there := heading .parked
    have unasked : (q.setPhase (.waiting .parked)).script.pendingJump? = none := ahead running
    rw [Script.heading?, unasked] at there
    exact there.symm.trans line

theorem enter_heads {q : Run σ} (active : q.script.isActive) (ready : q.script.phase = .ready)
    (label : q.script.requestedLabel = none) (idle : q.script.controls = [])
    (cursor : q.script.cursor.bind q.script.program.firstAt? = target) :
    Heads target q.enter := by
  have unasked := pendingJump_idle label idle
  unfold enter
  split
  · exact .inl rfl
  · next index here =>
    rw [here, Option.bind_some] at cursor
    unfold takeUp
    simp only
    split
    · next absent =>
      rw [Program.firstAt_of_none absent] at cursor
      refine .inr (.of_free (by simp only [Script.isWaiting, ready]) active ?_)
      change Script.heading? { q.script with cursor := q.script.program.next? index } = target
      simp only [Script.heading?, pendingJump_idle, label, idle, ready]
      exact (Program.firstAt_firstAt _).trans cursor
    · next command found =>
      have present : (q.script.program.command? index).isSome := by rw [found]; rfl
      rw [Program.firstAt_of_command present] at cursor
      refine (approach_stands _).heads active present (fun w => ?_) fun _ => unasked
      simp only [setPhase, Script.heading?, pendingJump_idle, label, idle]
      exact cursor

theorem proceed_heads {r : Run σ} (ready : r.script.phase = .ready) (active : r.script.isActive)
    (unstopped : .stop ∉ r.script.controls) : Heads r.script.heading? r.proceed := by
  have drained := poll_drained unstopped r.script.requestedLabel
  have going : (poll r.script.requestedLabel r.script.controls).1 = false := by
    rw [Bool.eq_false_iff]
    exact fun stopped => unstopped (poll_stopped.mp stopped)
  unfold proceed
  simp only [active, Bool.not_true, Bool.false_eq_true, if_false, going]
  split
  · next none =>
    refine enter_heads active ready none drained ?_
    have unasked : r.script.pendingJump? = Option.none := none
    simp only [Script.heading?, unasked, ready]
  · next label asked =>
    have pending : r.script.pendingJump? = some label := asked
    have heading : r.script.heading? = r.script.program.landing? label := by
      simp only [Script.heading?, pending]
    split
    · next jump resolved =>
      refine enter_heads active ready rfl drained ?_
      have there : r.script.program.landing? label = jump.line := by
        simp only [Program.landing?, resolved]
      rw [heading, there]
      cases line : jump.line with
      | none => rfl
      | some index => exact Program.firstAt_of_command (resolve_command resolved line)
    · exact .inl rfl

theorem heed_goto_heads {r : Run σ} {w : Wait} {label : String} {rest : List Control}
    (queue : r.script.controls = .goto label :: rest) (bound : r.script.Bound target) :
    Heads target (r.heed w (.goto label) rest) := by
  have same : r.script.pendingJump? = (poll (some label) rest).2.1 := by
    simp only [Script.pendingJump?, queue, poll]
  obtain ⟨last, pending⟩ := Option.isSome_iff_exists.mp
    (poll_isSome (Option.isSome_some (a := label)) rest)
  simp only [heed, interrupt, release_eq]
  refine .inr (.of_free rfl bound.active ?_)
  rw [← bound.heading]
  simp only [Script.heading?, same, pending]
  simp only [moveOn, Script.pendingJump?, pending]

theorem heed_resume_heads {r : Run σ} {w : Wait} {rest : List Control}
    (attentive : r.script.Attentive) (waits : r.script.phase = .waiting w)
    (queue : r.script.controls = .resume :: rest) (bound : r.script.Bound target) :
    Heads target (r.heed w .resume rest) := by
  have same : r.script.pendingJump? = (poll r.script.requestedLabel rest).2.1 := by
    simp only [Script.pendingJump?, queue, poll]
  have heading : ∀ w',
      Script.heading? { r.script with controls := rest, phase := .waiting w' } = target := by
    intro w'
    rw [← bound.heading]
    simp only [Script.heading?, waits, Script.pendingJump?, queue, poll]
  cases w with
  | parked =>
    refine (approach_stands _).heads bound.active (attentive.placed _ waits rfl) heading
      fun running => ?_
    refine Option.not_isSome_iff_eq_none.mp fun pending => ?_
    change (poll r.script.requestedLabel rest).2.1.isSome at pending
    rw [← same] at pending
    obtain ⟨_, label, more, first⟩ := bound.ahead _ waits running pending
    cases queue.symm.trans first
  | _ =>
    refine .inr ⟨bound.active, ?_, fun w' waits' own => ?_, fun w' waits' running pending => ?_⟩
    · rw [← heading _, ← waits]
    · have asked := bound.asked w' waits' own
      rw [same] at asked
      exact asked
    · change (poll r.script.requestedLabel rest).2.1.isSome at pending
      rw [← same] at pending
      obtain ⟨parked, _⟩ := bound.ahead _ waits running pending
      cases parked

/-- What a script waits for before a line may come although it has messages to look at. -/
theorem expire_heads {r : Run σ} {w : Wait} (attentive : r.script.Attentive)
    (waits : r.script.phase = .waiting w) (bound : r.script.Bound target)
    (due : r.isDue w.deadline? = true) : Heads target (r.expire w) := by
  have heading : ∀ w', (r.setPhase (.waiting w')).script.heading? = target := by
    intro w'
    rw [← bound.heading]
    simp only [Script.heading?, waits, setPhase, Script.pendingJump?]
  have ahead : w ≠ .parked → r.script.state = .running → r.script.pendingJump? = none :=
    fun other running => Option.not_isSome_iff_eq_none.mp fun pending =>
      other (bound.ahead w waits running pending).1
  cases w with
  | roundtime deadline =>
    exact (throttle_stands (attentive.placed _ waits rfl)).heads bound.active
      (attentive.placed _ waits rfl) heading (ahead (by simp))
  | delay deadline =>
    exact (arrive_stands (attentive.placed _ waits rfl)).heads bound.active
      (attentive.placed _ waits rfl) heading (ahead (by simp))
  | pause deadline =>
    exact .inr (bound.of_asked (bound.asked _ waits rfl) rfl rfl rfl rfl rfl)
  | hit id pending deadline =>
    have kept := (release_keeps r (.hit id pending deadline)).trans
      (trace_keeps _ 1 "matchwait timed out")
    have position := kept .position (by decide)
    exact .inr (bound.of_asked (bound.asked _ waits rfl) rfl position.1 position.2.1
      (kept .identity (by decide)).2.1 (kept .state (by decide)))
  | _ => cases due

theorem heed_heads {r : Run σ} {w : Wait} {message : Control} {rest : List Control}
    (attentive : r.script.Attentive) (waits : r.script.phase = .waiting w)
    (queue : r.script.controls = message :: rest) (bound : r.script.Bound target) :
    Heads target (r.heed w message rest) := by
  cases message with
  | stop =>
    have unstopped := attentive.unstopped bound.active
    rw [queue] at unstopped
    exact absurd List.mem_cons_self unstopped
  | goto label => exact heed_goto_heads queue bound
  | resume => exact heed_resume_heads attentive waits queue bound

theorem wake_heads {r : Run σ} {w : Wait} {t : Turn σ} (attentive : r.script.Attentive)
    (waits : r.script.phase = .waiting w) (bound : r.script.Bound target)
    (woken : r.wake? w wake = some t) : Heads target t := by
  cases wake with
  | message =>
    simp only [wake?] at woken
    split at woken
    · next queue =>
      cases woken
      exact heed_heads attentive waits queue bound
    · cases woken
  | event =>
    obtain ⟨id, event, stream, listens, _, rfl⟩ := wake_event woken
    have own : w.isOwn := by cases w <;> first | rfl | cases listens
    cases met : (r.withStream stream).meet w event with
    | some result => exact .inr (meet_bound bound (bound.asked w waits own) met)
    | none => exact .inr ⟨bound.active, bound.heading, bound.asked, bound.ahead⟩
  | deadline =>
    simp only [wake?] at woken
    split at woken
    · next due =>
      cases woken
      exact expire_heads attentive waits bound due
    · cases woken

theorem turn_ending {r : Run σ} {t : Turn σ} (ending : r.script.isEnding)
    (turn : r.turn? wake = some t) : ∃ q, t = .ended q ∧ q.script.isEnding := by
  unfold turn? at turn
  cases phase : r.script.phase with
  | ending =>
    rw [phase] at turn
    cases turn
    exact ⟨_, rfl, rfl⟩
  | stopped =>
    rw [phase] at turn
    cases turn
    exact ⟨_, rfl, rfl⟩
  | finished =>
    rw [phase] at turn
    cases turn
  | _ =>
    rw [Script.isEnding, phase] at ending
    cases ending

/-- Whatever a script does on its way to a line, it is still on the way, or it executes the line. -/
theorem turn_heads {r : Run σ} {t : Turn σ} (attentive : r.script.Attentive)
    (headed : r.script.Headed target) (turn : r.turn? wake = some t) : Heads target t := by
  rcases headed with ending | bound
  · obtain ⟨q, rfl, ended⟩ := turn_ending ending turn
    exact .inl ended
  · have unstopped := attentive.unstopped bound.active
    unfold turn? at turn
    split at turn
    · next fresh =>
      cases turn
      exact .inr (launch_bound fresh bound)
    · next ready =>
      cases turn
      rw [← bound.heading]
      exact proceed_heads ready bound.active unstopped
    · next w waits => exact wake_heads attentive waits bound turn
    · cases turn
      exact .inl rfl
    · cases turn
      exact .inl rfl
    · cases turn

theorem step_heads {table : CommandTable} {r r' : Run σ} (stepped : r.step? table wake = some r')
    (attentive : r.script.Attentive) (headed : r.script.Headed target) :
    r.dispatches? wake = none ∧ r'.script.Headed target ∨
      ∃ x, r.dispatches? wake = some x ∧ target = some x := by
  rcases step_cases stepped with turn | ⟨q, line, turn, rfl⟩
  · exact .inl ⟨dispatches_ended turn, turn_heads attentive headed turn⟩
  · obtain ⟨x, here, right⟩ := turn_heads attentive headed turn
    exact .inr ⟨x, by simp only [dispatches?, turn, here], right⟩

theorem ended_state {r r' : Run σ} (attentive : r.script.Attentive)
    (turn : r.turn? wake = some (.ended r')) : r'.script.state = r.script.state ∨
      r'.script.state = .stopped ∧ r'.script.isEnding := by
  cases turn_turns attentive turn with
  | free _ _ state => exact state
  | still _ _ _ _ _ _ _ state => exact .inl state
  | comes _ _ _ state _ stands => cases stands <;> exact .inl state

end Run

end Questline
