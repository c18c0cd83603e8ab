import Questline.Proofs.Interruption
import Questline.Proofs.Roundtime

/-! What a script heeds. A step deals with messages in the order in which they came, and none is
lost on the way; what a script waits for before a line is the line it has been taken to. -/
namespace Questline

variable {σ : Type} {wake : Wake}

def Script.isEnding (s : Script) : Bool :=
  match s.phase with
  | .ending | .stopped | .finished => true
  | _ => false

def Script.isWaiting (s : Script) : Bool :=
  match s.phase with
  | .waiting _ => true
  | _ => false

theorem Script.not_waiting {s : Script} (free : s.isWaiting = false) (w : Wait) :
    s.phase ≠ .waiting w := by
  intro waits
  rw [isWaiting, waits] at free
  cases free

/-- The messages of a script fit its place and state: what it was asked for has been dealt with
whenever it waits, there is a command where it waits for its turn, and it has stopped if it was told
to. -/
structure Script.Attentive (s : Script) : Prop where
  unasked : ∀ w, s.phase = .waiting w → s.requestedLabel = none
  placed : ∀ w, s.phase = .waiting w → w.isOwn = false → s.command?.isSome
  obedient : .stop ∈ s.controls → s.state = .stopped

theorem Script.Attentive.of_free {s : Script} (free : s.isWaiting = false)
    (obedient : .stop ∈ s.controls → s.state = .stopped) : s.Attentive where
  unasked w waits := absurd waits (not_waiting free w)
  placed w waits := absurd waits (not_waiting free w)
  obedient := obedient

theorem Script.Attentive.unstopped {s : Script} (attentive : s.Attentive) (active : s.isActive) :
    .stop ∉ s.controls := by
  intro told
  rw [isActive, attentive.obedient told] at active
  cases active

namespace Run

/-! ### Messages -/

theorem poll_stopped {label : Option String} {messages : List Control} :
    (poll label messages).1 = true ↔ .stop ∈ messages := by
  fun_induction poll label messages with
  | case1 => simp
  | case2 => simp
  | case3 label l rest ih => simpa using ih
  | case4 label rest ih => simpa using ih

theorem poll_fewer (label : Option String) (messages : List Control) :
    (poll label messages).2.2 ⊆ messages := by
  fun_induction poll label messages with
  | case1 => simp
  | case2 => simp
  | case3 label l rest ih => exact List.subset_cons_of_subset _ ih
  | case4 label rest ih => exact List.subset_cons_of_subset _ ih

theorem launch_controls (r : Run σ) :
    r.launch.script.controls = r.script.controls ∧
      r.launch.script.requestedLabel = r.script.requestedLabel := by
  have reported : ∀ (faults : List Fault) (q : Run σ),
      (faults.foldl report q).script.controls = q.script.controls ∧
        (faults.foldl report q).script.requestedLabel = q.script.requestedLabel := by
    intro faults
    induction faults with
    | nil => exact fun q => ⟨rfl, rfl⟩
    | cons f rest ih => exact fun q => ih _
  exact reported _ _

theorem conclude_controls (q : Run σ) (outcome : Outcome) :
    (conclude (q, outcome)).script.controls = q.script.controls ∧
      (conclude (q, outcome)).script.requestedLabel = q.script.requestedLabel := by
  cases outcome with
  | fault f =>
    simp only [conclude, handleFault]
    split <;> exact ⟨rfl, rfl⟩
  | _ => exact ⟨rfl, rfl⟩

theorem conclude_free {q : Run σ} {outcome : Outcome} (isOver : outcome.isOver = true) :
    (conclude (q, outcome)).script.isWaiting = false ∧
      (conclude (q, outcome)).script.state = q.script.state := by
  cases outcome with
  | done => exact ⟨rfl, rfl⟩
  | fault f =>
    refine ⟨?_, handleFault_keeps q f .state (by decide)⟩
    simp only [conclude, handleFault]
    split <;> rfl
  | _ => cases isOver

variable [Client σ]

/-! ### Before a line -/

/-- How a script that has been taken to a line goes on: it waits for its turn, passes over the line
or executes it. -/
inductive Stands (q : Run σ) : Turn σ → Prop
  | wait {w : Wait} (early : w.isOwn = false) (present : q.script.command?.isSome) :
      Stands q (.ended (q.setPhase (.waiting w)))
  | pass (idle : q.script.command?.isSome → q.script.isActive = false) :
      Stands q (.ended q.moveOn)
  | execute {command : Command} (running : q.script.state = .running)
      (present : q.script.command? = some command) :
      Stands q (.execute q (expand q.script.vars q.around command.text))

theorem arrive_stands {q : Run σ} (present : q.script.command?.isSome) : Stands q q.arrive := by
  obtain ⟨command, found⟩ := Option.isSome_iff_exists.mp present
  unfold arrive
  split
  · exact .wait rfl present
  · next unsuspended =>
    split
    · next inactive => exact .pass fun _ => by simpa using inactive
    · next active =>
      rw [found]
      refine .execute ?_ found
      cases state : q.script.state <;> simp_all [Script.isActive]

theorem throttle_stands {q : Run σ} (present : q.script.command?.isSome) : Stands q q.throttle := by
  unfold throttle
  split
  · exact .wait rfl present
  · split
    · exact .wait rfl present
    · exact arrive_stands present

theorem approach_stands (q : Run σ) : Stands q q.approach := by
  unfold approach
  split
  · next command found =>
    have present : q.script.command?.isSome := by rw [found]; rfl
    split
    · exact arrive_stands present
    · exact throttle_stands present
  · next none => exact .pass fun present => by rw [none] at present; cases present

/-- What the next step of a script comes to, as far as its messages go. -/
inductive Turns (r : Run σ) : Turn σ → Prop
  | free {q : Run σ} (free : q.script.isWaiting = false)
      (fewer : q.script.controls ⊆ r.script.controls)
      (state : q.script.state = r.script.state ∨ q.script.state = .stopped ∧ q.script.isEnding) :
      Turns r (.ended q)
  | still {q : Run σ} {w w' : Wait} (waits : r.script.phase = .waiting w)
      (waits' : q.script.phase = .waiting w') (same : w'.isOwn = w.isOwn)
      (command : q.script.command? = r.script.command?)
      (label : q.script.requestedLabel = r.script.requestedLabel)
      (fewer : q.script.controls ⊆ r.script.controls)
      (heeds : .stop ∈ r.script.controls → .stop ∈ q.script.controls)
      (state : q.script.state = r.script.state) : Turns r (.ended q)
  | comes {q : Run σ} {t : Turn σ} (going : r.script.isActive ∨ ∃ w, r.script.phase = .waiting w)
      (fewer : q.script.controls ⊆ r.script.controls)
      (heeds : .stop ∈ r.script.controls → .stop ∈ q.script.controls)
      (state : q.script.state = r.script.state) (unasked : q.script.requestedLabel = none)
      (stands : Stands q t) : Turns r t

theorem enter_turns {r q : Run σ} (active : r.script.isActive) (ready : q.script.phase = .ready)
    (fewer : q.script.controls ⊆ r.script.controls) (unstopped : .stop ∉ r.script.controls)
    (state : q.script.state = r.script.state) (unasked : q.script.requestedLabel = none) :
    Turns r q.enter := by
  unfold enter
  split
  · exact .free rfl fewer (.inl state)
  · unfold takeUp
    simp only
    split
    · exact .free (by simp only [Script.isWaiting, ready]) fewer (.inl state)
    · next index _ _ _ _ =>
      exact .comes (q := { q with script := { q.script with line := some index, next := _ } })
        (.inl active) fewer (fun member => absurd member unstopped) state unasked
        (approach_stands _)

theorem proceed_turns {r : Run σ} (ready : r.script.phase = .ready) : Turns r r.proceed := by
  have fewer := poll_fewer r.script.requestedLabel r.script.controls
  unfold proceed
  split
  · exact .free rfl (List.Subset.refl _) (.inl rfl)
  · next active =>
    have active : r.script.isActive := by simpa using active
    simp only
    split
    · exact .free rfl fewer (.inl rfl)
    · next going =>
      have unstopped : .stop ∉ r.script.controls := fun member => going (poll_stopped.mpr member)
      split
      · next none => exact enter_turns active ready fewer unstopped rfl none
      · split
        · exact enter_turns active ready fewer unstopped rfl rfl
        · exact .free rfl fewer (.inl rfl)

theorem heed_turns {r : Run σ} {w : Wait} {message : Control} {rest : List Control}
    (waits : r.script.phase = .waiting w) (asked : r.script.controls = message :: rest)
    (unasked : r.script.requestedLabel = none) : Turns r (r.heed w message rest) := by
  have fewer : rest ⊆ r.script.controls := by
    rw [asked]
    exact List.subset_cons_self message rest
  cases message with
  | stop =>
    simp only [heed, interrupt, release_eq]
    exact .free rfl fewer (.inl rfl)
  | goto label =>
    simp only [heed, interrupt, release_eq]
    exact .free rfl fewer (.inl rfl)
  | resume =>
    have heeds : .stop ∈ r.script.controls → .stop ∈ rest := by
      rw [asked]
      intro member
      simpa using member
    cases w with
    | parked =>
      exact .comes (q := { r with script := { r.script with controls := rest } })
        (.inr ⟨_, waits⟩) fewer heeds rfl unasked (approach_stands _)
    | _ => exact .still waits waits rfl rfl rfl fewer heeds rfl

theorem expire_turns {r : Run σ} {w : Wait} (waits : r.script.phase = .waiting w)
    (unasked : r.script.requestedLabel = none)
    (placed : w.isOwn = false → r.script.command?.isSome) : Turns r (r.expire w) := by
  cases w with
  | roundtime _ =>
    exact .comes (.inr ⟨_, waits⟩) (List.Subset.refl _) id rfl unasked
      (throttle_stands (placed rfl))
  | delay _ =>
    exact .comes (.inr ⟨_, waits⟩) (List.Subset.refl _) id rfl unasked (arrive_stands (placed rfl))
  | hit id pending deadline =>
    have kept := (release_keeps r (.hit id pending deadline)).trans
      (trace_keeps _ 1 "matchwait timed out")
    refine .free rfl ?_ (.inl (kept .state (by decide)))
    have same := (kept .position (by decide)).1
    simp only [moveOn]
    rw [same]
    exact List.Subset.refl _
  | _ =>
    simp only [expire, release_eq]
    exact .free rfl (List.Subset.refl _) (.inl rfl)

theorem wake_turns {r : Run σ} {w : Wait} {t : Turn σ} (waits : r.script.phase = .waiting w)
    (unasked : r.script.requestedLabel = none)
    (placed : w.isOwn = false → r.script.command?.isSome) (woken : r.wake? w wake = some t) :
    Turns r t := by
  cases wake with
  | message =>
    simp only [wake?] at woken
    split at woken
    · next asked =>
      cases woken
      exact heed_turns waits asked unasked
    · cases woken
  | event =>
    obtain ⟨_, event, stream, _, _, rfl⟩ := wake_event woken
    cases met : (r.withStream stream).meet w event with
    | some result =>
      obtain ⟨kept, isOver⟩ := meet_some met
      have way := ((withStream_keeps r stream).trans (release_keeps _ w)).trans kept
      obtain ⟨free, state⟩ := conclude_free (q := result.1) isOver
      refine .free free ?_ (.inl (state.trans (way .state (by decide))))
      rw [Option.elim_some, (conclude_controls result.1 result.2).1,
        (way .position (by decide)).1]
      exact List.Subset.refl _
    | none => exact .still waits waits rfl rfl rfl (List.Subset.refl _) id rfl
  | deadline =>
    simp only [wake?] at woken
    split at woken
    · cases woken
      exact expire_turns waits unasked placed
    · cases woken

theorem turn_turns {r : Run σ} {t : Turn σ} (attentive : r.script.Attentive)
    (turn : r.turn? wake = some t) : Turns r t := by
  unfold turn? at turn
  split at turn
  · cases turn
    refine .free rfl ?_ (.inl (launch_keeps r .state (by decide)))
    rw [(launch_controls r).1]
    exact List.Subset.refl _
  · next ready =>
    cases turn
    exact proceed_turns ready
  · next w waits =>
    exact wake_turns waits (attentive.unasked w waits) (attentive.placed w waits) turn
  · cases turn
    exact .free rfl (List.Subset.refl _) (.inr ⟨rfl, rfl⟩)
  · next stopped =>
    cases turn
    exact .free rfl (List.Subset.refl _) (.inl rfl)
  · cases turn

theorem execute_position (table : CommandTable) (q : Run σ) (line : List Char) :
    Part.position.Same q (q.execute table line).1 := by
  refine execute_keeps (by decide) (fun command => ?_) q line
  cases command <;> simp [Builtin.touches]

theorem step_attentive {table : CommandTable} {r r' : Run σ}
    (stepped : r.step? table wake = some r')
    (attentive : r.script.Attentive) : r'.script.Attentive := by
  rcases step_cases stepped with turn | ⟨q, line, turn, rfl⟩
  · cases turn_turns attentive turn with
    | free free fewer state =>
      refine .of_free free ?_
      intro told
      rcases state with same | stopped
      · rw [same]
        exact attentive.obedient (fewer told)
      · exact stopped.1
    | still waits waits' same command label fewer _ state =>
      refine ⟨fun w _ => ?_, fun w there early => ?_, fun told => ?_⟩
      · rw [label]
        exact attentive.unasked _ waits
      · cases waits'.symm.trans there
        rw [command]
        exact attentive.placed _ waits (same.symm.trans early)
      · rw [state]
        exact attentive.obedient (fewer told)
    | comes _ fewer _ state unasked stands =>
      cases stands with
      | wait early present =>
        refine ⟨fun w _ => unasked, fun w _ _ => present, fun told => ?_⟩
        exact state.trans (attentive.obedient (fewer told))
      | pass =>
        refine .of_free rfl fun told => ?_
        exact state.trans (attentive.obedient (fewer told))
  · cases turn_turns attentive turn with
    | comes _ fewer _ state unasked stands =>
      cases stands with
      | @execute command running present =>
        have position :=
          execute_position table q (expand q.script.vars q.around command.text).toList
        have own := execute_isOwn table q (expand q.script.vars q.around command.text).toList
        generalize q.execute table (expand q.script.vars q.around command.text).toList = result
          at position own
        obtain ⟨controls, label⟩ := conclude_controls result.1 result.2
        refine ⟨fun w waits => ?_, fun w waits early => ?_, fun told => ?_⟩
        · exact label.trans (position.2.1.trans unasked)
        · rw [show result.2 = .waiting w from conclude_waiting waits] at own
          cases early.symm.trans own
        · have queued := told
          rw [controls, position.1] at queued
          cases running.symm.trans (state.trans (attentive.obedient (fewer queued)))

end Run

theorem Script.Handled.attentive {s s' : Script} (handled : s.Handled s')
    (attentive : s.Attentive) : s'.Attentive := by
  obtain ⟨unasked, placed, obedient⟩ := attentive
  cases handled with
  | idle => exact ⟨unasked, placed, obedient⟩
  | stop =>
    unfold Script.stop
    split
    · exact ⟨unasked, placed, obedient⟩
    · exact ⟨unasked, placed, fun _ => rfl⟩
  | suspend =>
    unfold Script.suspend
    split
    · next running =>
      refine ⟨unasked, placed, fun told => ?_⟩
      rw [obedient told] at running
      cases running
    · exact ⟨unasked, placed, obedient⟩
  | resume =>
    unfold Script.resume
    split
    · next suspended =>
      refine ⟨unasked, placed, fun told => ?_⟩
      rw [obedient (by simpa using told)] at suspended
      cases suspended
    · exact ⟨unasked, placed, obedient⟩
  | goto label =>
    unfold Script.requestGoto
    split
    · exact ⟨unasked, placed, fun told => obedient (by simpa using told)⟩
    · exact ⟨unasked, placed, obedient⟩

theorem Engine.Reachable.attentive [Client σ] {e : Engine σ} (reachable : e.Reachable) {i : Nat}
    {s : Script} (found : e.scripts[i]? = some s) : s.Attentive := by
  refine reachable.invariant ?_ Script.Handled.attentive Run.step_attentive found
  intro config name source arguments
  exact .of_free rfl fun told => by cases told

/-! ### Moves as a script sees them -/

/-- What a move that is no step of the script at an index makes of that script. -/
def Move.act (i : Nat) (s : Script) : Move σ → Script
  | stop j => if j = i then s.stop else s
  | suspend j => if j = i then s.suspend.2 else s
  | resume j => if j = i then s.resume.2 else s
  | goto j label => if j = i then s.requestGoto label else s
  | _ => s

namespace Engine

theorem script_address {e : Engine σ} {i : Nat} {s : Script} (found : e.scripts[i]? = some s)
    (j : Nat) (f : Script → Script) :
    (e.address j f).scripts[i]? = some (if j = i then f s else s) := by
  by_cases own : j = i
  · subst own
    rw [address_own, found, Option.map_some, if_pos rfl]
  · rw [address_other own, found, if_neg own]

theorem script_own {e : Engine σ} {i : Nat} {s : Script} (found : e.scripts[i]? = some s)
    (f : Script → Script) : (e.address i f).scripts[i]? = some (f s) := by
  rw [address_own, found, Option.map_some]

variable [Client σ]

theorem script_act {e : Engine σ} {i : Nat} {s : Script} (found : e.scripts[i]? = some s)
    {m : Move σ} (other : m.isStep i = false) : (e.moved m).scripts[i]? = some (m.act i s) := by
  cases m with
  | step j _ =>
    have different : j ≠ i := by simpa [Move.isStep] using other
    exact (script_other different).trans found
  | stop j => exact script_address found j _
  | suspend j => exact script_address found j _
  | resume j => exact script_address found j _
  | goto j label => exact script_address found j _
  | start name source arguments =>
    obtain ⟨within, _⟩ := List.getElem?_eq_some_iff.mp found
    simp only [moved, start, Move.act]
    rw [List.getElem?_append_left within]
    exact found
  | publish event => exact found
  | elapse milliseconds => exact found
  | client client => exact found
  | globals globals => exact found

end Engine

/-! ### Dispatching -/

/-- The index of the line that the next step of a script dispatches. -/
def Run.dispatches? [Client σ] (wake : Wake) (r : Run σ) : Option Nat :=
  match r.turn? wake with
  | some (.execute q _) => q.script.line
  | _ => none

theorem Run.dispatches_ended [Client σ] {r q : Run σ} (turn : r.turn? wake = some (.ended q)) :
    r.dispatches? wake = none := by
  simp only [dispatches?, turn]

theorem Run.dispatches_none [Client σ] {r : Run σ} :
    r.dispatches? wake = none ↔ ∀ q line, r.turn? wake ≠ some (.execute q line) := by
  constructor
  · intro silent q line turn
    simp only [dispatches?, turn] at silent
    cases turn_takes turn with
    | comeUp _ _ _ _ comes =>
      cases comes with
      | execute _ present => simp [Script.command?, silent] at present
  · intro never
    unfold dispatches?
    split
    · next q line turn => exact absurd turn (never q line)
    · rfl

theorem Run.dispatches_idle [Client σ] {r : Run σ} (idle : r.script.state ≠ .running) :
    r.dispatches? wake = none := by
  rw [dispatches_none]
  intro q line turn
  obtain ⟨_, _, _, running, aside⟩ := execute_turn turn
  have same : q.script.state = r.script.state := aside .state (by decide)
  exact idle (same.symm.trans running)

namespace Engine

variable [Client σ]

/-- The line that a move makes the script at an index dispatch. -/
def dispatches (i : Nat) (e : Engine σ) : Move σ → List Nat
  | .step j wake =>
    if j = i then ((e.scripts[i]?).bind fun s => Run.dispatches? wake ⟨s, e.world⟩).toList else []
  | _ => []

theorem dispatches_step {e : Engine σ} {i : Nat} {s : Script} (found : e.scripts[i]? = some s) :
    dispatches i e (.step i wake) = (Run.dispatches? wake ⟨s, e.world⟩).toList := by
  simp only [dispatches, if_true, found, Option.bind_some]

theorem dispatches_other {e : Engine σ} {i : Nat} {m : Move σ} (other : m.isStep i = false) :
    dispatches i e m = [] := by
  cases m with
  | step j _ =>
    have different : j ≠ i := by simpa [Move.isStep] using other
    simp only [dispatches, if_neg different]
  | _ => rfl

theorem dispatches_stuck {e : Engine σ} {i : Nat} {s : Script} (found : e.scripts[i]? = some s)
    (stuck : Run.step? e.table wake ⟨s, e.world⟩ = none) : dispatches i e (.step i wake) = [] := by
  rw [dispatches_step found, Run.dispatches?, Option.map_eq_none_iff.mp stuck]
  rfl

/-- A property that is kept by the moves that are made, and by every step that dispatches no line,
is kept as long as none is dispatched; what it says about the line that a step dispatches then holds
of the first one. -/
theorem first_dispatch {i : Nat} (P : Script → Prop) (Q : Nat → Prop) (allowed : Move σ → Prop)
    (stepped : ∀ {table : CommandTable} {wake : Wake} {r r' : Run σ},
      r.step? table wake = some r' → P r.script →
      r.dispatches? wake = none ∧ P r'.script ∨ ∃ x, r.dispatches? wake = some x ∧ Q x)
    (acted : ∀ {m : Move σ} {s : Script}, allowed m → P s → P (m.act i s))
    {e : Engine σ} {s : Script} (found : e.scripts[i]? = some s) (holds : P s)
    {moves : List (Move σ)} (all : ∀ m ∈ moves, allowed m) :
    (along (dispatches i) e moves = [] ∧ ∃ s', (e.after moves).scripts[i]? = some s' ∧ P s') ∨
      ∃ x, (along (dispatches i) e moves).head? = some x ∧ Q x := by
  induction moves generalizing e s with
  | nil => exact .inl ⟨rfl, s, found, holds⟩
  | cons m rest ih =>
    have later := fun m' member => all m' (List.mem_cons_of_mem m member)
    have goesOn : ∀ s', (e.moved m).scripts[i]? = some s' → P s' → dispatches i e m = [] →
        (along (dispatches i) e (m :: rest) = [] ∧
          ∃ s', (e.after (m :: rest)).scripts[i]? = some s' ∧ P s') ∨
        ∃ x, (along (dispatches i) e (m :: rest)).head? = some x ∧ Q x := by
      intro s' found' holds' quiet
      rw [along, quiet, List.nil_append]
      exact ih found' holds' later
    rcases m.step_or i with ⟨wake, rfl⟩ | other
    · cases taken : Run.step? e.table wake ⟨s, e.world⟩ with
      | none =>
        refine goesOn s ?_ holds (dispatches_stuck found taken)
        rw [moved_stuck found taken]
        exact found
      | some r =>
        rcases stepped taken holds with ⟨quiet, holds'⟩ | ⟨x, dispatched, right⟩
        · refine goesOn r.script (script_step found taken) holds' ?_
          rw [dispatches_step found, quiet]
          rfl
        · refine .inr ⟨x, ?_, right⟩
          rw [along, dispatches_step found, dispatched]
          rfl
    · refine goesOn _ (script_act found other) ?_ (dispatches_other other)
      exact acted (all m List.mem_cons_self) holds

theorem silent_after {i : Nat} (P : Script → Prop) (allowed : Move σ → Prop)
    (silent : ∀ {wake : Wake} {r : Run σ}, P r.script → r.dispatches? wake = none)
    (stepped : ∀ {table : CommandTable} {wake : Wake} {r r' : Run σ},
      r.step? table wake = some r' → P r.script → P r'.script)
    (acted : ∀ {m : Move σ} {s : Script}, allowed m → P s → P (m.act i s))
    {e : Engine σ} {s : Script} (found : e.scripts[i]? = some s) (holds : P s)
    {moves : List (Move σ)} (all : ∀ m ∈ moves, allowed m) :
    along (dispatches i) e moves = [] ∧ ∃ s', (e.after moves).scripts[i]? = some s' ∧ P s' := by
  rcases first_dispatch P (fun _ => False) allowed
    (fun taken holds => .inl ⟨silent holds, stepped taken holds⟩) acted found holds all with
    quiet | ⟨_, _, impossible⟩
  · exact quiet
  · exact impossible.elim

end Engine

end Questline
