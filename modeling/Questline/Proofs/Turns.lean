import Questline.Proofs.Outcomes
import Questline.Proofs.Parts

/-! What a step of a script can be. Each step is one of a few turns, and only one of them executes a
line; what a line can touch follows from the commands. -/
namespace Questline

variable {σ : Type}

def Phase.isBusy : Phase → Bool
  | ready | waiting _ => true
  | _ => false

def Script.listening (s : Script) : Option Nat :=
  match s.phase with
  | .waiting w => w.subscription?
  | _ => none

theorem Script.waits_of_listening {s : Script} {id : Nat} (hears : s.listening = some id) :
    ∃ w, s.phase = .waiting w ∧ w.subscription? = some id := by
  unfold listening at hears
  split at hears
  · next w waits => exact ⟨w, waits, hears⟩
  · cases hears

namespace Run

theorem setPhase_keeps (r : Run σ) (phase : Phase) : Keeps [.position] r (r.setPhase phase) := by
  intro p outside
  cases p <;> simp_all [Part.Same, setPhase]

theorem moveOn_keeps (r : Run σ) : Keeps [.position] r r.moveOn := by
  intro p outside
  cases p <;> simp_all [Part.Same, moveOn]

theorem emit_keeps (r : Run σ) (e : ScriptEvent) : Keeps [.events] r (r.emit e) := by
  intro p outside
  cases p <;> simp_all [Part.Same, emit]

theorem report_keeps (r : Run σ) (f : Fault) : Keeps [.log, .events] r (r.report f) :=
  (note_keeps r _).trans (emit_keeps _ _)

def blamed (r : Run σ) (f : Fault) : Fault := r.script.line.elim f fun index => f.atLine (index + 1)

@[simp] theorem blamed_cause (r : Run σ) (f : Fault) : (r.blamed f).cause = f.cause := by
  unfold blamed
  cases r.script.line <;> rfl

@[simp] theorem blamed_isFatal (r : Run σ) (f : Fault) : (r.blamed f).isFatal = f.isFatal := by
  unfold blamed
  cases r.script.line <;> rfl

theorem finish_keeps (r : Run σ) : Keeps [.position] r r.finish := setPhase_keeps r _

theorem crash_keeps (r : Run σ) :
    Keeps [.position, .state, .events, .watch, .stream] r r.crash := by
  have stopped := (clearMatches_keeps r).trans (stop_keeps r.clearMatches)
  exact (((stopped.trans (emit_keeps _ _)).trans (emit_keeps _ .stopped)).trans
    (setPhase_keeps _ .finished)).mono (by decide)

theorem handleFault_keeps (r : Run σ) (f : Fault) :
    Keeps [.position, .events, .log] r (r.handleFault f) := by
  unfold handleFault
  simp only
  split
  · exact ((report_keeps r f).trans (finish_keeps _)).mono (by decide)
  · exact ((report_keeps r f).trans (moveOn_keeps _)).mono (by decide)

theorem conclude_keeps (r : Run σ) (outcome : Outcome) :
    Keeps [.position, .state, .events, .log, .watch, .stream] r (conclude (r, outcome)) := by
  cases outcome with
  | done => exact (moveOn_keeps r).mono (by decide)
  | fault f => exact (handleFault_keeps r f).mono (by decide)
  | interrupted => exact (moveOn_keeps r).mono (by decide)
  | waiting w => exact (setPhase_keeps r _).mono (by decide)
  | crashed => exact (crash_keeps r).mono (by decide)

theorem conclude_done {result : Run σ × Outcome} (done : result.2 = .done) :
    conclude result = result.1.moveOn := by
  obtain ⟨r, outcome⟩ := result
  cases done
  rfl

theorem launch_keeps (r : Run σ) : Keeps [.position, .events, .log] r r.launch := by
  have reported : ∀ (faults : List Fault) (q : Run σ),
      Keeps [.events, .log] q (faults.foldl report q) := by
    intro faults
    induction faults with
    | nil => exact fun q => .refl _ q
    | cons f faults ih => exact fun q => ((report_keeps q f).trans (ih _)).mono (by decide)
  have begun := (emit_keeps r .started).trans (reported r.script.program.warnings _)
  intro p outside
  have same := begun p (by simp_all)
  cases p <;> simp_all [Part.Same, launch, emit]

/-! ### Lines -/

section Lines

variable [Client σ]

theorem grant_keeps {r r' : Run σ} {request : Request} (granted : r.grant request = .ok r') :
    Keeps [.log, .next, .state, .specials, .globals, .stream] r r' := by
  cases request with
  | echo text => cases granted; exact (note_keeps r _).mono (by decide)
  | trace level text => cases granted; exact (trace_keeps r _ _).mono (by decide)
  | publish event =>
    cases granted
    intro p outside
    cases p <;> simp_all [Part.Same]
  | goto label =>
    obtain ⟨_, _, _, kept⟩ := goto_ok granted
    exact kept.mono (by decide)
  | stop => cases granted; exact (stop_keeps r).mono (by decide)
  | setSpecial name value => cases granted; exact (setSpecial_keeps r _ _).mono (by decide)
  | inspect names => cases granted; exact (note_keeps r _).mono (by decide)

theorem grantAll_keeps (r : Run σ) (requests : List Request) :
    Keeps [.log, .next, .state, .specials, .globals, .stream] r (r.grantAll requests).1 := by
  induction requests generalizing r with
  | nil => exact .refl _ r
  | cons request rest ih =>
    unfold grantAll
    split
    · next first => exact ((grant_keeps first).trans (ih _)).mono (by simp)
    · exact .refl _ r

/-- On the way to a command a script only leaves messages, remembers conditions and grants the
requests of custom commands, so what each of these keeps is kept. -/
theorem way_relates {table : CommandTable} {R : Run σ → Run σ → Prop} (refl : ∀ r, R r r)
    (trans : ∀ {r r' r''}, R r r' → R r' r'' → R r r'')
    (traced : ∀ r level text, R r (r.trace level text))
    (judged : ∀ (r : Run σ) holds,
      R r { r with script := { r.script with lastCondition := holds } })
    (granted : ∀ r requests, R r (r.grantAll requests).1)
    (r : Run σ) (line : List Char) : R r (r.way table line).1 := by
  have followed : ∀ (r : Run σ) shown arguments action, R r (r.follow shown arguments action).1 := by
    intro r shown arguments action
    unfold follow
    split
    · exact refl _
    · exact judged _ _
    · exact refl _
    · exact refl _
    · next handler =>
      have given := granted r (handler (String.ofList arguments)).1
      simp only
      split
      · next answer => rw [answer] at given; exact given
      · next answer => rw [answer] at given; exact given
  unfold way
  split
  · exact refl r
  · exact trans (traced r 2 _) (followed _ _ _ _)

theorem dispatch_relates {table : CommandTable} {R : Run σ → Run σ → Prop}
    (trans : ∀ {r r' r''}, R r r' → R r' r'' → R r r'')
    (step : ∀ (r : Run σ) line, R r (r.way table line).1) (r : Run σ) (line : List Char) :
    R r (r.dispatch table line).1 := by
  fun_induction dispatch table r line with
  | case1 r line q destination led =>
    have first := step r line
    rw [led] at first
    exact first
  | case2 r line q rest led ih =>
    have first := step r line
    rw [led] at first
    exact trans first ih

/-- The parts that may be touched on the way to a command. -/
def underway : List Part := [.condition, .log, .next, .state, .specials, .globals, .stream]

theorem dispatch_keeps (table : CommandTable) (r : Run σ) (line : List Char) :
    Keeps underway r (r.dispatch table line).1 := by
  refine dispatch_relates (fun first second => (first.trans second).mono (by simp)) ?_ r line
  refine way_relates (.refl _) (fun first second => (first.trans second).mono (by simp))
    (fun r _ _ => (trace_keeps r _ _).mono (by decide)) ?_
    (fun r requests => (grantAll_keeps r requests).mono (by decide))
  intro r holds p outside
  cases p <;> simp_all [Part.Same, underway]

theorem follow_brief {r : Run σ} {shown : String} {arguments : List Char} {action : Option Action}
    {outcome : Outcome} (led : (r.follow shown arguments action).2 = .there (.ended outcome)) :
    outcome.wait? = none := by
  unfold follow at led
  split at led
  · cases led; rfl
  · simp only at led
    split at led <;> cases led
    rfl
  · simp only at led
    split at led <;> cases led
    rfl
  · cases led
  · next handler =>
    simp only at led
    split at led
    · cases led; rfl
    · generalize (handler (String.ofList arguments)).2 = reaction at led
      cases reaction <;> cases led <;> rfl

theorem dispatch_brief {table : CommandTable} {r q : Run σ} {line : List Char} {outcome : Outcome}
    (led : r.dispatch table line = (q, .ended outcome)) : outcome.wait? = none := by
  fun_induction dispatch table r line with
  | case1 r line q' destination way =>
    cases led
    have second := congrArg Prod.snd way
    unfold Run.way at second
    split at second
    · cases second; rfl
    · exact follow_brief second
  | case2 r line q' rest way ih => exact ih led

theorem execute_cases (table : CommandTable) (r : Run σ) (line : List Char) :
    (∃ q command arguments, r.dispatch table line = (q, .command command arguments) ∧
      r.execute table line = Commands.perform q arguments command) ∨
    ∃ q outcome, r.dispatch table line = (q, .ended outcome) ∧
      r.execute table line = (q, outcome) := by
  unfold execute
  cases led : r.dispatch table line with
  | mk q destination =>
    cases destination with
    | command command arguments => exact .inl ⟨q, command, arguments, rfl, rfl⟩
    | ended outcome => exact .inr ⟨q, outcome, rfl, rfl⟩

/-- No command touches a part that only the loop over lines changes. -/
theorem execute_keeps {table : CommandTable} {p : Part} (aloof : p ∉ underway)
    (untouched : ∀ command : Builtin, p ∉ command.touches) (r : Run σ) (line : List Char) :
    p.Same r (r.execute table line).1 := by
  have led := dispatch_keeps table r line p aloof
  rcases execute_cases table r line with ⟨q, command, arguments, found, done⟩ | ⟨q, _, found, done⟩
  · rw [found] at led
    rw [done]
    exact led.trans (Commands.perform_keeps q arguments command p (untouched command))
  · rw [found] at led
    rw [done]
    exact led

end Lines

/-! ### Turns -/

/-- A command that gets what it waited for lets go of its subscription, may bind groups and may go
to a label, and then is over. -/
theorem meet_some {r : Run σ} {w : Wait} {event : GameEvent} {result : Run σ × Outcome}
    (met : r.meet w event = some result) :
    Keeps [.locals, .log, .next] (r.release w) result.1 ∧ result.2.isOver = true := by
  unfold meet at met
  split at met
  · obtain ⟨groups, _, same⟩ := Option.map_eq_some_iff.mp met
    subst same
    refine ⟨?_, rfl⟩
    simp only
    split
    · exact (bindGroups_keeps _ groups).mono (by decide)
    · exact .refl _ _
  · split at met
    · cases met
      exact ⟨.refl _ _, rfl⟩
    · cases met
  · obtain ⟨hit, _, same⟩ := Option.map_eq_some_iff.mp met
    have reached : ∀ q : Run σ, Keeps [.locals, .log, .next] q
        (Commands.attempt (hit.groups.elim q q.bindGroups)
          ((hit.groups.elim q q.bindGroups).goto hit.label)).1 := by
      intro q
      have bound : Keeps [.locals] q (hit.groups.elim q q.bindGroups) := by
        cases hit.groups with
        | none => exact .refl _ q
        | some groups => exact bindGroups_keeps q groups
      refine bound.trans (Commands.attempt_keeps _ fun q' done => ?_)
      obtain ⟨_, _, _, kept⟩ := goto_ok done
      exact kept
    have isOver : ∀ q : Run σ, Commands.Over (Commands.attempt q (q.goto hit.label)) :=
      fun q => Commands.attempt_over q _
    subst same
    exact ⟨reached _, isOver _⟩
  · cases met

theorem setCursor_keeps (r : Run σ) (cursor : Option Nat) :
    Keeps [.position] r { r with script := { r.script with cursor } } := by
  intro p outside
  cases p <;> simp_all [Part.Same]

theorem setLine_keeps (r : Run σ) (line next : Option Nat) :
    Keeps [.position, .next] r { r with script := { r.script with line, next } } := by
  intro p outside
  cases p <;> simp_all [Part.Same]

theorem setControls_keeps (r : Run σ) (requestedLabel : Option String) (controls : List Control) :
    Keeps [.position] r { r with script := { r.script with requestedLabel, controls } } := by
  intro p outside
  cases p <;> simp_all [Part.Same]

def withStream (r : Run σ) (stream : Stream) : Run σ :=
  { r with world := { r.world with stream } }

theorem withStream_keeps (r : Run σ) (stream : Stream) :
    Keeps [.stream] r (r.withStream stream) := by
  intro p outside
  cases p <;> simp_all [Part.Same, withStream]

variable [Client σ] {wake : Wake}

/-- How a script comes up to its line: it has to wait first, goes on without executing it, or
executes it. -/
inductive ComesUp (q : Run σ) : Turn σ → Prop
  | wait {w : Wait} (silent : w.subscription? = none) : ComesUp q (.ended (q.setPhase (.waiting w)))
  | pass : ComesUp q (.ended q.moveOn)
  | execute {command : Command} (running : q.script.state = .running)
      (found : q.script.command? = some command) :
      ComesUp q (.execute q (expand q.script.vars q.around command.text))

theorem arrive_comesUp (q : Run σ) : ComesUp q q.arrive := by
  unfold arrive
  split
  · exact .wait rfl
  · next notSuspended =>
    split
    · exact .pass
    · next active =>
      split
      · next found =>
        refine .execute ?_ found
        cases state : q.script.state <;> simp_all [Script.isActive]
      · exact .pass

theorem throttle_comesUp (q : Run σ) : ComesUp q q.throttle := by
  unfold throttle
  split
  · exact .wait rfl
  · split
    · exact .wait rfl
    · exact arrive_comesUp q

theorem approach_comesUp (q : Run σ) : ComesUp q q.approach := by
  unfold approach
  split
  · split
    · exact arrive_comesUp q
    · exact throttle_comesUp q
  · exact .pass

inductive Takes (r : Run σ) : Turn σ → Prop
  | launch (fresh : r.script.phase = .fresh) : Takes r (.ended r.launch)
  | finish {q : Run σ} (ready : r.script.phase = .ready) (aside : Keeps [.position] r q) :
      Takes r (.ended q.finish)
  | reject {q : Run σ} {label : String} {f : Fault} (ready : r.script.phase = .ready)
      (aside : Keeps [.position] r q) (unknown : r.script.program.resolve label = .error f) :
      Takes r (.ended (q.report f).finish)
  /-- A message or an empty line is passed over. -/
  | stay {q : Run σ} (busy : r.script.phase.isBusy) (aside : Keeps [.position] r q)
      (phase : q.script.phase = r.script.phase) : Takes r (.ended q)
  | comeUp {q : Run σ} {t : Turn σ} (busy : r.script.phase.isBusy)
      (silent : r.script.listening = none) (aside : Keeps [.position, .next] r q)
      (phase : q.script.phase = r.script.phase) (comes : ComesUp q t) : Takes r t
  | leave {q : Run σ} {w : Wait} (waits : r.script.phase = .waiting w)
      (aside : Keeps [.position] r q) : Takes r (.ended (q.release w).moveOn)
  | lapse {id : Nat} {pending : List PendingMatch} {deadline : Option Nat}
      (waits : r.script.phase = .waiting (.hit id pending deadline))
      (due : r.isDue deadline = true) :
      Takes r (.ended ((r.release (.hit id pending deadline)).trace 1
        "matchwait timed out").moveOn)
  | passOver {w : Wait} {id : Nat} {event : GameEvent} {stream : Stream}
      (waits : r.script.phase = .waiting w) (listens : w.subscription? = some id)
      (taken : r.world.stream.take? id = some (event, stream))
      (unmet : (r.withStream stream).meet w event = none) :
      Takes r (.ended (r.withStream stream))
  | meet {w : Wait} {id : Nat} {event : GameEvent} {stream : Stream} {result : Run σ × Outcome}
      (waits : r.script.phase = .waiting w) (listens : w.subscription? = some id)
      (taken : r.world.stream.take? id = some (event, stream))
      (met : (r.withStream stream).meet w event = some result) : Takes r (.ended (conclude result))
  | shutDown (ending : r.script.phase = .ending) : Takes r (.ended r.shutDown)
  | sayGoodbye (stopped : r.script.phase = .stopped) : Takes r (.ended r.sayGoodbye)

theorem enter_takes {r q : Run σ} (ready : r.script.phase = .ready) (aside : Keeps [.position] r q)
    (phase : q.script.phase = .ready) : Takes r q.enter := by
  have busy : r.script.phase.isBusy := by rw [ready]; rfl
  unfold enter
  split
  · exact .finish ready aside
  · next index _ =>
    unfold takeUp
    simp only
    split
    · exact .stay busy ((aside.trans (setCursor_keeps q _)).mono (by decide))
        (phase.trans ready.symm)
    · exact .comeUp busy (by simp [Script.listening, ready])
        ((aside.trans (setLine_keeps q (some index) _)).mono (by decide)) (phase.trans ready.symm)
        (approach_comesUp _)

theorem proceed_takes {r : Run σ} (ready : r.script.phase = .ready) : Takes r r.proceed := by
  unfold proceed
  split
  · exact .finish ready (.refl _ r)
  · simp only
    have polled := setControls_keeps r (poll r.script.requestedLabel r.script.controls).2.1
      (poll r.script.requestedLabel r.script.controls).2.2
    split
    · exact .finish ready polled
    · split
      · exact enter_takes ready polled ready
      · next label _ =>
        have cleared := setControls_keeps r none
          (poll r.script.requestedLabel r.script.controls).2.2
        split
        · exact enter_takes ready ((cleared.trans (setCursor_keeps _ _)).mono (by decide)) ready
        · next unknown => exact .reject ready cleared unknown

theorem heed_takes {r : Run σ} {w : Wait} (waits : r.script.phase = .waiting w) (message : Control)
    (rest : List Control) : Takes r (r.heed w message rest) := by
  have busy : r.script.phase.isBusy := by rw [waits]; rfl
  have heeded := fun label => setControls_keeps r label rest
  cases message with
  | stop => exact .leave waits (heeded r.script.requestedLabel)
  | goto label => exact .leave waits (heeded (some label))
  | resume =>
    cases w with
    | parked =>
      exact .comeUp busy (by simp [Script.listening, waits, Wait.subscription?])
        ((heeded r.script.requestedLabel).mono (by decide)) rfl (approach_comesUp _)
    | _ => exact .stay busy (heeded r.script.requestedLabel) rfl

theorem expire_takes {r : Run σ} {w : Wait} (waits : r.script.phase = .waiting w)
    (due : r.isDue w.deadline? = true) : Takes r (r.expire w) := by
  have busy : r.script.phase.isBusy := by rw [waits]; rfl
  cases w with
  | roundtime _ =>
    exact .comeUp busy (by simp [Script.listening, waits, Wait.subscription?]) (.refl _ r) rfl
      (throttle_comesUp r)
  | delay _ =>
    exact .comeUp busy (by simp [Script.listening, waits, Wait.subscription?]) (.refl _ r) rfl
      (arrive_comesUp r)
  | hit id pending deadline => exact .lapse waits due
  | _ => exact .leave waits (.refl _ r)

theorem wake_event {r : Run σ} {w : Wait} {t : Turn σ} (woken : r.wake? w .event = some t) :
    ∃ id event stream, w.subscription? = some id ∧
      r.world.stream.take? id = some (event, stream) ∧
      t = .ended (((r.withStream stream).meet w event).elim (r.withStream stream) conclude) := by
  obtain ⟨⟨event, stream⟩, taken, same⟩ := Option.map_eq_some_iff.mp woken
  obtain ⟨id, listens, taken⟩ := Option.bind_eq_some_iff.mp taken
  exact ⟨id, event, stream, listens, taken, same.symm⟩

theorem wake_takes {r : Run σ} {w : Wait} {t : Turn σ} (waits : r.script.phase = .waiting w)
    (woken : r.wake? w wake = some t) : Takes r t := by
  cases wake with
  | message =>
    simp only [wake?] at woken
    split at woken
    · cases woken
      exact heed_takes waits _ _
    · cases woken
  | event =>
    obtain ⟨id, event, stream, listens, taken, rfl⟩ := wake_event woken
    cases answer : (r.withStream stream).meet w event with
    | none => exact .passOver waits listens taken answer
    | some result => exact .meet waits listens taken answer
  | deadline =>
    simp only [wake?] at woken
    split at woken
    · next due =>
      cases woken
      exact expire_takes waits due
    · cases woken

theorem turn_takes {r : Run σ} {t : Turn σ} (turn : r.turn? wake = some t) : Takes r t := by
  unfold turn? at turn
  split at turn
  · next fresh => cases turn; exact .launch fresh
  · next ready => cases turn; exact proceed_takes ready
  · next w waits => exact wake_takes waits turn
  · next ending => cases turn; exact .shutDown ending
  · next stopped => cases turn; exact .sayGoodbye stopped
  · cases turn

/-- The parts that may be touched by a step that executes no line. -/
def besides : List Part := [.position, .next, .state, .events, .log, .locals, .watch, .stream]

theorem ended_keeps {r r' : Run σ} (turn : r.turn? wake = some (.ended r')) :
    Keeps besides r r' := by
  cases turn_takes turn with
  | launch => exact (launch_keeps r).mono (by decide)
  | finish _ aside => exact (aside.trans (finish_keeps _)).mono (by decide)
  | reject _ aside _ =>
    exact ((aside.trans (report_keeps _ _)).trans (finish_keeps _)).mono (by decide)
  | stay _ aside => exact aside.mono (by decide)
  | comeUp _ _ aside _ comes =>
    cases comes with
    | wait => exact (aside.trans (setPhase_keeps _ _)).mono (by decide)
    | pass => exact (aside.trans (moveOn_keeps _)).mono (by decide)
  | leave _ aside =>
    exact ((aside.trans (release_keeps _ _)).trans (moveOn_keeps _)).mono (by decide)
  | lapse =>
    exact (((release_keeps r _).trans (trace_keeps _ _ _)).trans (moveOn_keeps _)).mono
      (by decide)
  | passOver => exact (withStream_keeps r _).mono (by decide)
  | meet _ _ _ met =>
    exact ((((withStream_keeps r _).trans (release_keeps _ _)).trans (meet_some met).1).trans
      (conclude_keeps _ _)).mono (by decide)
  | shutDown =>
    have stopped := (clearMatches_keeps r).trans (stop_keeps _)
    exact (stopped.trans (setPhase_keeps _ _)).mono (by decide)
  | sayGoodbye => exact ((emit_keeps r _).trans (setPhase_keeps _ _)).mono (by decide)

theorem execute_turn {r q : Run σ} {line : String} (turn : r.turn? wake = some (.execute q line)) :
    r.script.phase.isBusy ∧ r.script.listening = none ∧ q.script.phase = r.script.phase ∧
      q.script.state = .running ∧ Keeps [.position, .next] r q := by
  cases turn_takes turn with
  | comeUp busy silent aside phase comes =>
    cases comes with
    | execute running => exact ⟨busy, silent, phase, running, aside⟩

theorem step_cases {table : CommandTable} {r r' : Run σ} (stepped : r.step? table wake = some r') :
    r.turn? wake = some (.ended r') ∨
      ∃ q line, r.turn? wake = some (.execute q line) ∧
        r' = conclude (q.execute table line.toList) := by
  obtain ⟨t, turn, done⟩ := Option.map_eq_some_iff.mp stepped
  cases t with
  | ended q => cases done; exact .inl turn
  | execute q line => exact .inr ⟨q, line, turn, done.symm⟩

/-- What neither the loop over lines nor any command touches is the same after every step. -/
theorem step_keeps {table : CommandTable} {p : Part} (aside : p ∉ besides) (aloof : p ∉ underway)
    (untouched : ∀ command : Builtin, p ∉ command.touches) {r r' : Run σ}
    (stepped : r.step? table wake = some r') : p.Same r r' := by
  rcases step_cases stepped with turn | ⟨q, line, turn, rfl⟩
  · exact ended_keeps turn p aside
  · have before := (execute_turn turn).2.2.2.2.mono (show [.position, .next] ⊆ besides by decide)
    have after := (conclude_keeps (q.execute table line.toList).1
      (q.execute table line.toList).2).mono
      (show [.position, .state, .events, .log, .watch, .stream] ⊆ besides by decide)
    exact ((before p aside).trans (execute_keeps aloof untouched q line.toList)).trans
      (after p aside)

theorem step_program {table : CommandTable} {r r' : Run σ}
    (stepped : r.step? table wake = some r') :
    r'.script.program = r.script.program := by
  have untouched : ∀ command : Builtin, Part.identity ∉ command.touches := by
    intro command
    cases command <;> simp [Builtin.touches]
  exact (step_keeps (by decide) (by decide) untouched stepped).2.1

/-! ### Commands that are carried out -/

/-- The builtin command to which the next step of a script leads, with its arguments and the state
in which it is performed. -/
def leadsTo? (table : CommandTable) (wake : Wake) (r : Run σ) :
    Option (Run σ × Builtin × String) :=
  match r.turn? wake with
  | some (.execute q line) =>
    match q.dispatch table line.toList with
    | (q, .command command arguments) => some (q, command, arguments)
    | _ => none
  | _ => none

/-- The builtin command that the next step of a script carries out with success. -/
def carriesOut? (table : CommandTable) (wake : Wake) (r : Run σ) : Option Builtin :=
  (r.leadsTo? table wake).bind fun (q, command, arguments) =>
    match (Commands.perform q arguments command).2 with
    | .done => some command
    | _ => none

theorem leadsTo_some {table : CommandTable} {r q' : Run σ} {command : Builtin} {arguments : String}
    (led : r.leadsTo? table wake = some (q', command, arguments)) :
    ∃ q line, r.turn? wake = some (.execute q line) ∧
      q.dispatch table line.toList = (q', .command command arguments) := by
  unfold leadsTo? at led
  split at led
  · next q line turn =>
    split at led
    · next way => cases led; exact ⟨q, line, turn, way⟩
    · cases led
  · cases led

theorem carriesOut_some {table : CommandTable} {r : Run σ} {command : Builtin}
    (done : r.carriesOut? table wake = some command) :
    ∃ q arguments, r.leadsTo? table wake = some (q, command, arguments) ∧
      (Commands.perform q arguments command).2 = .done := by
  obtain ⟨⟨q, _, arguments⟩, led, done⟩ := Option.bind_eq_some_iff.mp done
  simp only at done
  split at done
  · next finished =>
    cases done
    exact ⟨q, arguments, led, finished⟩
  · cases done

/-- A command is performed in a state that differs from the one before the step at most in the place
and in what is touched on the way. -/
theorem leadsTo_keeps {table : CommandTable} {r q : Run σ} {command : Builtin} {arguments : String}
    (led : r.leadsTo? table wake = some (q, command, arguments)) :
    Keeps ([Part.position, .next] ++ underway) r q := by
  obtain ⟨q₀, line, turn, way⟩ := leadsTo_some led
  have kept := dispatch_keeps table q₀ line.toList
  rw [way] at kept
  exact (execute_turn turn).2.2.2.2.trans kept

theorem step_of_leadsTo {table : CommandTable} {r q : Run σ} {command : Builtin}
    {arguments : String} (led : r.leadsTo? table wake = some (q, command, arguments)) :
    r.step? table wake = some (conclude (Commands.perform q arguments command)) := by
  obtain ⟨q₀, line, turn, way⟩ := leadsTo_some led
  rw [step?, turn, Option.map_some, Turn.complete, execute, way]

theorem step_leads {table : CommandTable} {r r' : Run σ} (stepped : r.step? table wake = some r') :
    (∃ q command arguments, r.leadsTo? table wake = some (q, command, arguments) ∧
      r' = conclude (Commands.perform q arguments command)) ∨
    r.leadsTo? table wake = none ∧
      (r.turn? wake = some (.ended r') ∨
        ∃ q line q' outcome, r.turn? wake = some (.execute q line) ∧
        q.dispatch table line.toList = (q', .ended outcome) ∧ r' = conclude (q', outcome)) := by
  rcases step_cases stepped with turn | ⟨q, line, turn, rfl⟩
  · exact .inr ⟨by simp only [leadsTo?, turn], .inl turn⟩
  · rcases execute_cases table q line.toList with
      ⟨q', command, arguments, led, done⟩ | ⟨q', outcome, led, done⟩
    · exact .inl ⟨q', command, arguments, by simp only [leadsTo?, turn, led], by rw [done]⟩
    · refine .inr ⟨by simp only [leadsTo?, turn, led], .inr ?_⟩
      exact ⟨q, line, q', outcome, turn, led, by rw [done]⟩

end Run

end Questline
