import Questline.MemoryClient
import Questline.Proofs.Moves

/-! What a script announces over its life, and the states it goes through. However it ends, it says
so once and last, and by then it has stopped for good. -/
namespace Questline

/-- What a script has announced as long as it takes up lines: its start and warnings. -/
def Underway (events : List ScriptEvent) : Prop :=
  ∃ warnings : List Fault, (∀ f ∈ warnings, f.isFatal = false) ∧
    events = .started :: warnings.map .fault

/-- What a script has announced before it says that it has stopped: its start, warnings and at most
one fatal fault. -/
def Complete (events : List ScriptEvent) : Prop :=
  ∃ (warnings : List Fault) (fatal : Option Fault), (∀ f ∈ warnings, f.isFatal = false) ∧
    (∀ f ∈ fatal, f.isFatal = true) ∧ events = .started :: (warnings ++ fatal.toList).map .fault

theorem Complete.silent {events : List ScriptEvent} (complete : Complete events) :
    .stopped ∉ events := by
  obtain ⟨warnings, fatal, _, _, rfl⟩ := complete
  simp

namespace Underway

variable {events : List ScriptEvent} {f : Fault}

theorem complete (underway : Underway events) : Complete events := by
  obtain ⟨warnings, harmless, rfl⟩ := underway
  exact ⟨warnings, none, harmless, by simp, by rw [Option.toList_none, List.append_nil]⟩

theorem warn (underway : Underway events) (harmless : f.isFatal = false) :
    Underway (events ++ [ScriptEvent.fault f]) := by
  obtain ⟨warnings, all, rfl⟩ := underway
  refine ⟨warnings ++ [f], fun g member => ?_, by simp⟩
  rcases List.mem_append.mp member with earlier | here
  · exact all g earlier
  · rw [List.mem_singleton.mp here]
    exact harmless

theorem fail (underway : Underway events) (fatal : f.isFatal = true) :
    Complete (events ++ [ScriptEvent.fault f]) := by
  obtain ⟨warnings, all, rfl⟩ := underway
  refine ⟨warnings, some f, all, fun g same => ?_, by simp⟩
  cases same
  exact fatal

end Underway

/-- What a script has announced fits the place where it stands, and it does not get to its last
places without having stopped. -/
def Script.Tells (s : Script) : Prop :=
  match s.phase with
  | .fresh => s.events = []
  | .ready | .waiting _ => Underway s.events
  | .ending => Complete s.events
  | .stopped => Complete s.events ∧ s.state = .stopped
  | .finished => (∃ events, Complete events ∧ s.events = events ++ [.stopped]) ∧ s.state = .stopped

theorem Script.tells_busy {s : Script} (busy : s.phase.isBusy) : s.Tells ↔ Underway s.events := by
  unfold Tells
  split
  · next fresh => rw [fresh] at busy; cases busy
  · exact .rfl
  · exact .rfl
  · next ending => rw [ending] at busy; cases busy
  · next stopped => rw [stopped] at busy; cases busy
  · next finished => rw [finished] at busy; cases busy

/-! ### Programs -/

namespace Program

theorem declare_harmless {found : LabelTable × List Fault} (all : ∀ f ∈ found.2, f.isFatal = false)
    (index : Nat) (line : Line) : ∀ f ∈ (declare found index line).2, f.isFatal = false := by
  unfold declare
  split
  · split
    · intro f member
      rcases List.mem_append.mp member with earlier | here
      · exact all f earlier
      · rw [List.mem_singleton.mp here]
        rfl
    · exact all
  · exact all

theorem declareAll_harmless {found : LabelTable × List Fault}
    (all : ∀ f ∈ found.2, f.isFatal = false) (index : Nat) (lines : List Line) :
    ∀ f ∈ (declareAll found index lines).2, f.isFatal = false := by
  induction lines generalizing found index with
  | nil => exact all
  | cons line rest ih => exact ih (declare_harmless all index line) (index + 1)

theorem parse_harmless (source : String) : ∀ f ∈ (parse source).warnings, f.isFatal = false := by
  change ∀ f ∈ (declareAll (.empty, []) 0 _).2, f.isFatal = false
  exact declareAll_harmless (by simp) 0 _

theorem resolve_fatal {p : Program} {label : String} {f : Fault}
    (unknown : p.resolve label = .error f) : f.isFatal = true := by
  unfold resolve at unknown
  split at unknown
  · cases unknown
  · split at unknown
    · cases unknown
    · cases unknown
      rfl

end Program

/-! ### Steps -/

namespace Run

variable {σ : Type} {wake : Wake}

theorem handleFault_tells {q : Run σ} (underway : Underway q.script.events) (f : Fault) :
    (q.handleFault f).script.Tells := by
  unfold handleFault
  simp only
  split
  · next fatal => exact underway.fail ((blamed_isFatal q f).trans fatal)
  · next harmless =>
    exact underway.warn ((blamed_isFatal q f).trans (Bool.eq_false_iff.mpr harmless))

theorem crash_tells {q : Run σ} (underway : Underway q.script.events) : q.crash.script.Tells :=
  ⟨⟨_, underway.fail rfl, rfl⟩, rfl⟩

theorem conclude_tells {q : Run σ} (underway : Underway q.script.events) (outcome : Outcome) :
    (conclude (q, outcome)).script.Tells := by
  cases outcome with
  | done => exact underway
  | interrupted => exact underway
  | waiting w => exact underway
  | fault f => exact handleFault_tells underway f
  | crashed => exact crash_tells underway

theorem launch_tells {r : Run σ} (silent : r.script.events = [])
    (harmless : ∀ f ∈ r.script.program.warnings, f.isFatal = false) : r.launch.script.Tells := by
  have reported : ∀ (faults : List Fault) (q : Run σ), (∀ f ∈ faults, f.isFatal = false) →
      Underway q.script.events → Underway (faults.foldl report q).script.events := by
    intro faults
    induction faults with
    | nil => exact fun q _ underway => underway
    | cons f rest ih =>
      intro q all underway
      refine ih _ (fun g member => all g (List.mem_cons_of_mem _ member)) ?_
      exact underway.warn ((blamed_isFatal q f).trans (all f List.mem_cons_self))
  refine reported _ (r.emit .started) harmless ⟨[], by simp, ?_⟩
  simp only [emit, silent, List.nil_append, List.map_nil]

/-! ### States -/

/-- Announcements are only added, and the state stays as it is unless the script stops. -/
structure Advances (r r' : Run σ) : Prop where
  events : r.script.events <+: r'.script.events
  state : r'.script.state = r.script.state ∨ r'.script.state = .stopped

namespace Advances

variable {r r' r'' : Run σ}

theorem of_keeps {parts : List Part} (kept : Keeps parts r r') (events : Part.events ∉ parts)
    (state : Part.state ∉ parts) : Advances r r' where
  events := by
    have same : r'.script.events = r.script.events := kept .events events
    exact same ▸ List.prefix_rfl
  state := .inl (kept .state state)

theorem refl (r : Run σ) : Advances r r := of_keeps (.refl [] r) (by decide) (by decide)

theorem trans (first : Advances r r') (second : Advances r' r'') : Advances r r'' where
  events := first.events.trans second.events
  state := by
    rcases second.state with same | stopped
    · rw [same]
      exact first.state
    · exact .inr stopped

end Advances

theorem emit_advances (r : Run σ) (e : ScriptEvent) : Advances r (r.emit e) :=
  ⟨List.prefix_append _ _, .inl rfl⟩

theorem stop_advances (r : Run σ) : Advances r r.stop := ⟨List.prefix_rfl, .inr rfl⟩

theorem report_advances (r : Run σ) (f : Fault) : Advances r (r.report f) :=
  ⟨List.prefix_append _ _, .inl rfl⟩

theorem setPhase_advances (r : Run σ) (phase : Phase) : Advances r (r.setPhase phase) :=
  .of_keeps (setPhase_keeps r phase) (by decide) (by decide)

theorem moveOn_advances (r : Run σ) : Advances r r.moveOn :=
  .of_keeps (moveOn_keeps r) (by decide) (by decide)

theorem shutDown_advances (r : Run σ) : Advances r r.shutDown :=
  ⟨List.prefix_rfl, .inr rfl⟩

theorem conclude_advances (q : Run σ) (outcome : Outcome) : Advances q (conclude (q, outcome)) := by
  cases outcome with
  | done => exact moveOn_advances q
  | interrupted => exact moveOn_advances q
  | waiting w => exact setPhase_advances q _
  | fault f =>
    simp only [conclude, handleFault]
    split
    · exact (report_advances q f).trans (setPhase_advances _ _)
    · exact (report_advances q f).trans (moveOn_advances _)
  | crashed =>
    refine ⟨?_, .inr rfl⟩
    exact (List.prefix_append _ _).trans (List.prefix_append _ _)

theorem launch_advances (r : Run σ) : Advances r r.launch := by
  have reported : ∀ (faults : List Fault) (q : Run σ), Advances q (faults.foldl report q) := by
    intro faults
    induction faults with
    | nil => exact fun q => .refl q
    | cons f rest ih => exact fun q => (report_advances q f).trans (ih _)
  have whole := (emit_advances r .started).trans (reported r.script.program.warnings _)
  exact ⟨whole.events, whole.state⟩

variable [Client σ]

theorem ended_tells {r r' : Run σ} (turn : r.turn? wake = some (.ended r')) (tells : r.script.Tells)
    (harmless : ∀ f ∈ r.script.program.warnings, f.isFatal = false) : r'.script.Tells := by
  have ready_busy : r.script.phase = .ready → r.script.phase.isBusy :=
    fun ready => by rw [ready]; rfl
  have waiting_busy : ∀ {w}, r.script.phase = .waiting w → r.script.phase.isBusy :=
    fun waits => by rw [waits]; rfl
  -- what has been announced before, where the script was taking up lines
  have underway : ∀ {parts : List Part} {q : Run σ}, r.script.phase.isBusy → Keeps parts r q →
      Part.events ∉ parts → Underway q.script.events := by
    intro parts q busy kept outside
    have same : q.script.events = r.script.events := kept .events outside
    rw [same]
    exact (Script.tells_busy busy).mp tells
  cases turn_takes turn with
  | launch fresh =>
    simp only [Script.Tells, fresh] at tells
    exact launch_tells tells harmless
  | finish ready aside => exact (underway (ready_busy ready) aside (by decide)).complete
  | @reject q label f ready aside unknown =>
    have fatal := (blamed_isFatal q f).trans (Program.resolve_fatal unknown)
    exact (underway (ready_busy ready) aside (by decide)).fail fatal
  | stay busy aside phase =>
    exact (Script.tells_busy (phase ▸ busy)).mpr (underway busy aside (by decide))
  | comeUp busy _ aside _ comes =>
    cases comes with
    | wait => exact underway busy (aside.trans (setPhase_keeps _ _)) (by decide)
    | pass => exact underway busy (aside.trans (moveOn_keeps _)) (by decide)
  | leave waits aside =>
    exact underway (waiting_busy waits) ((aside.trans (release_keeps _ _)).trans (moveOn_keeps _))
      (by decide)
  | lapse waits =>
    exact underway (waiting_busy waits)
      (((release_keeps r _).trans (trace_keeps _ _ _)).trans (moveOn_keeps _)) (by decide)
  | @passOver w id event stream waits =>
    have busy : (r.withStream stream).script.phase.isBusy := waiting_busy waits
    exact (Script.tells_busy busy).mpr (underway (waiting_busy waits) (withStream_keeps r stream)
      (by decide))
  | @meet w id event stream result waits _ _ met =>
    have way := ((withStream_keeps r stream).trans (release_keeps _ w)).trans (meet_some met).1
    exact conclude_tells (underway (waiting_busy waits) way (by decide)) result.2
  | shutDown ending =>
    simp only [Script.Tells, ending] at tells
    exact ⟨tells, rfl⟩
  | sayGoodbye stopped =>
    simp only [Script.Tells, stopped] at tells
    exact ⟨⟨_, tells.1, rfl⟩, tells.2⟩

theorem step_tells {table : CommandTable} {r r' : Run σ} (stepped : r.step? table wake = some r')
    (tells : r.script.Tells) (harmless : ∀ f ∈ r.script.program.warnings, f.isFatal = false) :
    r'.script.Tells := by
  rcases step_cases stepped with turn | ⟨q, line, turn, rfl⟩
  · exact ended_tells turn tells harmless
  · obtain ⟨busy, _, _, _, aside⟩ := execute_turn turn
    have untouched : ∀ command : Builtin, Part.events ∉ command.touches := by
      intro command
      cases command <;> simp [Builtin.touches]
    have before : q.script.events = r.script.events := aside .events (by decide)
    have executed : (q.execute table line.toList).1.script.events = q.script.events :=
      execute_keeps (by decide) untouched q line.toList
    have underway : Underway (q.execute table line.toList).1.script.events := by
      rw [executed, before]
      exact (Script.tells_busy busy).mp tells
    exact conclude_tells underway (q.execute table line.toList).2

theorem ended_advances {r r' : Run σ} (turn : r.turn? wake = some (.ended r')) : Advances r r' := by
  have aside : ∀ {parts : List Part} {q : Run σ}, Keeps parts r q → Part.events ∉ parts →
      Part.state ∉ parts → Advances r q := fun kept events state => .of_keeps kept events state
  cases turn_takes turn with
  | launch => exact launch_advances r
  | finish _ kept => exact (aside kept (by decide) (by decide)).trans (setPhase_advances _ _)
  | reject _ kept _ =>
    exact ((aside kept (by decide) (by decide)).trans (report_advances _ _)).trans
      (setPhase_advances _ _)
  | stay _ kept => exact aside kept (by decide) (by decide)
  | comeUp _ _ kept _ comes =>
    cases comes with
    | wait => exact aside (kept.trans (setPhase_keeps _ _)) (by decide) (by decide)
    | pass => exact aside (kept.trans (moveOn_keeps _)) (by decide) (by decide)
  | leave _ kept =>
    exact aside ((kept.trans (release_keeps _ _)).trans (moveOn_keeps _)) (by decide) (by decide)
  | lapse =>
    exact aside (((release_keeps r _).trans (trace_keeps _ _ _)).trans (moveOn_keeps _)) (by decide)
      (by decide)
  | passOver =>
    exact aside (withStream_keeps r _) (by decide) (by decide)
  | @meet w _ _ stream result _ _ _ met =>
    have way := ((withStream_keeps r stream).trans (release_keeps _ w)).trans (meet_some met).1
    exact (aside way (by decide) (by decide)).trans (conclude_advances result.1 result.2)
  | shutDown => exact shutDown_advances r
  | sayGoodbye => exact (emit_advances r .stopped).trans (setPhase_advances _ _)

theorem grantAll_advances (r : Run σ) (requests : List Request) :
    Advances r (r.grantAll requests).1 := by
  have granted : ∀ {r r' : Run σ} {request : Request}, r.grant request = .ok r' → Advances r r' := by
    intro r r' request granted
    cases request with
    | stop => cases granted; exact stop_advances r
    | echo text => cases granted; exact .of_keeps (note_keeps r _) (by decide) (by decide)
    | trace level text => cases granted; exact .of_keeps (trace_keeps r _ _) (by decide) (by decide)
    | publish event => cases granted; exact ⟨List.prefix_rfl, .inl rfl⟩
    | goto label =>
      obtain ⟨_, _, _, kept⟩ := goto_ok granted
      exact .of_keeps kept (by decide) (by decide)
    | setSpecial name value =>
      cases granted
      exact .of_keeps (setSpecial_keeps r _ _) (by decide) (by decide)
    | inspect names => cases granted; exact .of_keeps (note_keeps r _) (by decide) (by decide)
  induction requests generalizing r with
  | nil => exact .refl r
  | cons request rest ih =>
    unfold grantAll
    split
    · next first => exact (granted first).trans (ih _)
    · exact .refl r

theorem dispatch_advances (table : CommandTable) (r : Run σ) (line : List Char) :
    Advances r (r.dispatch table line).1 := by
  refine dispatch_relates (R := Advances) Advances.trans ?_ r line
  exact way_relates .refl Advances.trans
    (fun r _ _ => .of_keeps (trace_keeps r _ _) (by decide) (by decide))
    (fun r _ => ⟨List.prefix_rfl, .inl rfl⟩) grantAll_advances

theorem put_advances (q : Run σ) (arguments : String) :
    Advances q (Commands.put q arguments).1 := by
  unfold Commands.put
  have sent : Advances q (Commands.send q (Text.trim arguments)).2 :=
    .of_keeps (Commands.send_keeps q _) (by decide) (by decide)
  simp only
  split
  · next answer =>
    rw [answer] at sent
    exact sent
  · next q' answer =>
    rw [answer] at sent
    split
    · exact sent.trans (stop_advances q')
    · exact sent

theorem perform_advances (q : Run σ) (arguments : String) (command : Builtin) :
    Advances q (Commands.perform q arguments command).1 := by
  have kept := Commands.perform_keeps q arguments command
  by_cases stops : Part.state ∈ command.touches
  · cases command with
    | exit => exact stop_advances q
    | put => exact put_advances q arguments
    | _ => simp [Builtin.touches] at stops
  · have untouched : Part.events ∉ command.touches := by
      cases command <;> simp [Builtin.touches]
    exact .of_keeps kept untouched stops

theorem step_advances {table : CommandTable} {r r' : Run σ}
    (stepped : r.step? table wake = some r') :
    Advances r r' := by
  rcases step_cases stepped with turn | ⟨q, line, turn, rfl⟩
  · exact ended_advances turn
  · have before : Advances r q :=
      .of_keeps (execute_turn turn).2.2.2.2 (by decide) (by decide)
    have way := before.trans (dispatch_advances table q line.toList)
    rcases execute_cases table q line.toList with
      ⟨q', command, arguments, led, done⟩ | ⟨q', outcome, led, done⟩
    · rw [led] at way
      rw [done]
      exact (way.trans (perform_advances q' arguments command)).trans (conclude_advances _ _)
    · rw [led] at way
      rw [done]
      exact way.trans (conclude_advances q' outcome)

end Run

/-! ### Runs -/

def RunState.mayBecome : RunState → RunState → Bool
  | created, running | running, suspended | suspended, running | running, stopped
  | suspended, stopped => true
  | before, after => before == after

theorem RunState.mayBecome_refl (state : RunState) : state.mayBecome state = true := by
  cases state <;> rfl

theorem RunState.mayBecome_stopped {state : RunState} (begun : state ≠ .created) :
    state.mayBecome .stopped = true := by
  cases state <;> first | rfl | exact absurd rfl begun

theorem RunState.stopped_mayBecome {state : RunState} (becomes : stopped.mayBecome state = true) :
    state = .stopped := by
  cases state <;> first | rfl | cases becomes

namespace Script

/-- What holds of every script at any time. -/
structure Chronicled (s : Script) : Prop where
  harmless : ∀ f ∈ s.program.warnings, f.isFatal = false
  begun : s.state ≠ .created
  tells : s.Tells

theorem Handled.state {s s' : Script} (handled : s.Handled s') (begun : s.state ≠ .created) :
    s.state.mayBecome s'.state = true := by
  cases handled with
  | idle => exact RunState.mayBecome_refl _
  | stop =>
    unfold Script.stop
    split
    · exact RunState.mayBecome_refl _
    · exact RunState.mayBecome_stopped begun
  | suspend =>
    unfold Script.suspend
    split
    · next running => rw [beq_iff_eq.mp running]; rfl
    · exact RunState.mayBecome_refl _
  | resume =>
    unfold Script.resume
    split
    · next suspended => rw [beq_iff_eq.mp suspended]; rfl
    · exact RunState.mayBecome_refl _
  | goto label =>
    unfold Script.requestGoto
    split <;> exact RunState.mayBecome_refl _

theorem begun_of_mayBecome {before after : RunState} (begun : before ≠ .created)
    (becomes : before.mayBecome after = true) : after ≠ .created := by
  rintro rfl
  cases before <;> first | exact begun rfl | cases becomes

theorem Tells.of_same {s s' : Script} (tells : s.Tells) (phase : s'.phase = s.phase)
    (events : s'.events = s.events) (state : s.state = .stopped → s'.state = .stopped) :
    s'.Tells := by
  unfold Tells at tells ⊢
  rw [phase, events]
  split at tells
  · exact tells
  · exact tells
  · exact tells
  · exact tells
  · exact ⟨tells.1, state tells.2⟩
  · exact ⟨tells.1, state tells.2⟩

theorem Tells.shape {s : Script} (tells : s.Tells) :
    s.phase = .fresh ∧ s.events = [] ∨ ∃ events, Complete events ∧
      s.events = events ++ if s.isFinished then [ScriptEvent.stopped] else [] := by
  unfold isFinished
  unfold Tells at tells
  split at tells
  · next fresh => exact .inl ⟨fresh, tells⟩
  · next ready => exact .inr ⟨_, tells.complete, by simp [ready]⟩
  · next w waits => exact .inr ⟨_, tells.complete, by simp [waits]⟩
  · next ending => exact .inr ⟨_, tells, by simp [ending]⟩
  · next stopped => exact .inr ⟨_, tells.1, by simp [stopped]⟩
  · next finished =>
    obtain ⟨⟨events, complete, same⟩, _⟩ := tells
    exact .inr ⟨events, complete, by rw [finished]; exact same⟩

theorem Tells.stopped_iff {s : Script} (tells : s.Tells) : .stopped ∈ s.events ↔ s.isFinished := by
  rcases tells.shape with ⟨fresh, none⟩ | ⟨events, complete, same⟩
  · rw [none, isFinished, fresh]
    simp
  · have before := complete.silent
    rw [same]
    cases s.isFinished <;> simp [before]

theorem Tells.finished_stopped {s : Script} (tells : s.Tells) (finished : s.isFinished) :
    s.state = .stopped := by
  unfold isFinished at finished
  split at finished
  · next last =>
    simp only [Tells, last] at tells
    exact tells.2
  · cases finished

end Script

namespace Engine

variable {σ : Type} {wake : Wake} [Client σ]

theorem Fares.advances {e : Engine σ} {m : Move σ} {i : Nat} {s s' : Script}
    (fares : e.Fares m i s s') (chronicled : s.Chronicled) :
    s.events <+: s'.events ∧ s.state.mayBecome s'.state = true ∧ s'.Chronicled := by
  cases fares with
  | aside handled =>
    obtain ⟨kept, phase⟩ := handled.keeps e.world
    have events : s'.events = s.events := kept .events (by decide)
    have program : s'.program = s.program := (kept .identity (by decide)).2.1
    have becomes := handled.state chronicled.begun
    refine ⟨events ▸ List.prefix_rfl, becomes, ?_, ?_, ?_⟩
    · rw [program]
      exact chronicled.harmless
    · exact Script.begun_of_mayBecome chronicled.begun becomes
    · refine chronicled.tells.of_same phase events fun stopped => ?_
      rw [stopped] at becomes
      exact RunState.stopped_mayBecome becomes
  | @step _ r _ stepped =>
    have advances := Run.step_advances stepped
    have becomes : s.state.mayBecome r.script.state = true := by
      rcases advances.state with same | stopped
      · rw [same]
        exact RunState.mayBecome_refl _
      · rw [stopped]
        exact RunState.mayBecome_stopped chronicled.begun
    refine ⟨advances.events, becomes, ?_, ?_, ?_⟩
    · rw [Run.step_program stepped]
      exact chronicled.harmless
    · exact Script.begun_of_mayBecome chronicled.begun becomes
    · exact Run.step_tells stepped chronicled.tells chronicled.harmless

theorem Reachable.chronicled {e : Engine σ} (reachable : e.Reachable) {i : Nat} {s : Script}
    (found : e.scripts[i]? = some s) : s.Chronicled := by
  induction reachable generalizing i s with
  | create created =>
    rw [(create_ok created).2] at found
    cases found
  | move _ m ih =>
    rcases script_moved found with ⟨s₀, was, fares⟩ | ⟨_, name, source, arguments, rfl⟩
    · exact (fares.advances (ih was)).2.2
    · exact ⟨Program.parse_harmless source, nofun, rfl⟩

theorem Fares.finished {e : Engine σ} {m : Move σ} {i : Nat} {s s' : Script}
    (fares : e.Fares m i s s') (finished : s.isFinished) :
    s'.isFinished ∧ s'.events = s.events := by
  have last : s.phase = .finished := by
    unfold Script.isFinished at finished
    split at finished
    · assumption
    · cases finished
  cases fares with
  | aside handled =>
    obtain ⟨kept, phase⟩ := handled.keeps e.world
    exact ⟨by rw [Script.isFinished, phase, last], kept .events (by decide)⟩
  | step _ stepped => simp [Run.step?, Run.turn?, last] at stepped

/-- Along any moves announcements are only added, none after the last one, and a script that has
stopped stays stopped. -/
theorem chronicled_after {e : Engine σ} {i : Nat} {s : Script} (found : e.scripts[i]? = some s)
    (chronicled : s.Chronicled) (moves : List (Move σ)) :
    ∃ s', (e.after moves).scripts[i]? = some s' ∧ s.events <+: s'.events ∧
      (s.isFinished → s'.events = s.events) ∧ (s.state = .stopped → s'.state = .stopped) := by
  induction moves generalizing e s with
  | nil => exact ⟨s, found, List.prefix_rfl, fun _ => rfl, fun stopped => stopped⟩
  | cons m rest ih =>
    obtain ⟨s₁, found₁, fares⟩ := script_fares found m
    obtain ⟨grows, becomes, chronicled₁⟩ := fares.advances chronicled
    obtain ⟨s', found', grows', ended, stays⟩ := ih found₁ chronicled₁
    refine ⟨s', found', grows.trans grows', fun finished => ?_, fun stopped => ?_⟩
    · obtain ⟨still, same⟩ := fares.finished finished
      exact (ended still).trans same
    · rw [stopped] at becomes
      exact stays (RunState.stopped_mayBecome becomes)

/-- A script announces its start, then warnings, then at most one fatal fault, and then, once it is
over, that it has stopped; nothing follows that. By then it has stopped, and no stopped script comes
back. -/
theorem announces_in_order {e : Engine σ} (reachable : e.Reachable) {i : Nat} {s : Script}
    (found : e.scripts[i]? = some s) :
    (s.phase = .fresh ∧ s.events = [] ∨ ∃ events, Complete events ∧
      s.events = events ++ if s.isFinished then [ScriptEvent.stopped] else []) ∧
    (.stopped ∈ s.events ↔ s.isFinished) ∧ (.stopped ∈ s.events → s.state = .stopped) ∧
    (∀ m, ∃ s', (e.moved m).scripts[i]? = some s' ∧ s.state.mayBecome s'.state = true) ∧
    ∀ moves, ∃ s', (e.after moves).scripts[i]? = some s' ∧ s.events <+: s'.events ∧
      (s.isFinished → s'.events = s.events) ∧ (s.state = .stopped → s'.state = .stopped) := by
  have chronicled := reachable.chronicled found
  have tells := chronicled.tells
  refine ⟨tells.shape, tells.stopped_iff, fun said => ?_, fun m => ?_,
    chronicled_after found chronicled⟩
  · exact tells.finished_stopped (tells.stopped_iff.mp said)
  · obtain ⟨s', found', fares⟩ := script_fares found m
    exact ⟨s', found', (fares.advances chronicled).2.1⟩

/-- A script with a warning and a fatal fault that has come to its end. -/
def doomed : Engine MemoryClient :=
  (plain {}).after
    (.start "doomed" "here:\nhere:\ngoto nowhere" [] :: List.replicate 4 (.step 0 .message))

theorem announces_in_order_doomed : ∃ (s : Script) (events : List ScriptEvent),
    doomed.scripts[0]? = some s ∧ Complete events ∧
    s.events = events ++ [ScriptEvent.stopped] ∧ s.state = .stopped ∧
    ∃ s' : Script,
      (doomed.after [.resume 0, .goto 0 "here", .step 0 .message]).scripts[0]? = some s' ∧
      s'.events = s.events := by
  have reachable : doomed.Reachable := by
    unfold doomed
    exact (plain_reachable _).after _
  have facts : (doomed.scripts[0]?).map (fun s : Script => (s.isFinished, s.events.length)) =
      some (true, 4) := by
    decide +kernel
  obtain ⟨s, found, same⟩ := Option.map_eq_some_iff.mp facts
  obtain ⟨finished, number⟩ := Prod.mk.inj same
  obtain ⟨shape, stopped, state, _, runs⟩ := announces_in_order reachable found
  obtain ⟨s', found', _, ended, _⟩ := runs [.resume 0, .goto 0 "here", .step 0 .message]
  rcases shape with ⟨_, none⟩ | ⟨events, complete, told⟩
  · rw [none] at number
    cases number
  · rw [finished] at told
    exact ⟨s, events, found, complete, told, state (stopped.mpr finished), s', found',
      ended finished⟩

end Engine

end Questline
