import Questline.Proofs.Heading

/-! Suspended scripts. A script that is suspended dispatches no line, and the line that it is bound
for stays the same unless it is asked to jump. It is the first one that the script dispatches when
it is resumed, unless a resumption that was sent before the jump takes it off first. -/
namespace Questline

variable {σ : Type} {wake : Wake}

def Script.isParked (s : Script) : Bool :=
  match s.phase with
  | .waiting .parked => true
  | _ => false

theorem Script.phase_of_isParked {s : Script} (parked : s.isParked) :
    s.phase = .waiting .parked := by
  unfold isParked at parked
  split at parked
  · next waits => exact waits
  · cases parked

/-- A script is suspended or takes up no further line. -/
def Script.Dormant (s : Script) : Prop := s.state = .suspended ∨ s.isEnding

namespace Run

variable [Client σ] {r r' : Run σ}

theorem silent_of_dormant (dormant : r.script.Dormant) : r.dispatches? wake = none := by
  rcases dormant with suspended | ending
  · exact dispatches_idle (by simp [suspended])
  · rw [dispatches_none]
    intro q line turn
    obtain ⟨_, impossible, _⟩ := turn_ending ending turn
    cases impossible

theorem step_dormant {table : CommandTable} (stepped : r.step? table wake = some r')
    (attentive : r.script.Attentive) (dormant : r.script.Dormant) : r'.script.Dormant := by
  rcases step_cases stepped with turn | ⟨q, line, turn, rfl⟩
  · rcases dormant with suspended | ending
    · rcases ended_state attentive turn with same | ⟨_, ended⟩
      · exact .inl (same.trans suspended)
      · exact .inr ended
    · obtain ⟨_, same, ended⟩ := turn_ending ending turn
      cases same
      exact .inr ended
  · exact absurd turn (dispatches_none.mp (silent_of_dormant dormant) q line)

theorem approach_free {q : Run σ} {command : Command} (running : q.script.state = .running)
    (present : q.script.command? = some command)
    (free : command.instant ∨ q.roundtime = 0 ∧ ¬ 0 < q.script.delay) :
    q.approach = .execute q (expand q.script.vars q.around command.text) := by
  have arrives : q.arrive = .execute q (expand q.script.vars q.around command.text) := by
    simp [arrive, Script.isActive, running, present]
  unfold approach
  simp only [present]
  split
  · exact arrives
  · next slow =>
    obtain ⟨lapsed, brisk⟩ := free.resolve_left slow
    have none : ¬ 0 < Client.roundtime q.world.client q.world.now := Nat.not_lt.mpr lapsed.le
    rw [throttle, if_neg none, if_neg brisk]
    exact arrives

theorem turn_of_resume {r : Run σ} {rest : List Control}
    (parked : r.script.phase = .waiting .parked)
    (queue : r.script.controls = .resume :: rest) :
    r.turn? .message = some (approach { r with script := { r.script with controls := rest } }) := by
  simp only [turn?, parked, wake?, queue, heed]

end Run

namespace Move

def endsSuspension (i : Nat) : Move σ → Bool
  | stop j | resume j => j == i
  | _ => false

/-- A move stops the script at an index, suspends it or asks it to jump. -/
def diverts (i : Nat) : Move σ → Bool
  | stop j | suspend j | goto j _ => j == i
  | _ => false

theorem act_handled (i : Nat) (s : Script) (m : Move σ) : s.Handled (m.act i s) := by
  have addressed : ∀ {j : Nat} {s' : Script}, s.Handled s' →
      s.Handled (if j = i then s' else s) := by
    intro j s' handled
    split
    · exact handled
    · exact .idle
  cases m with
  | stop j => exact addressed .stop
  | suspend j => exact addressed .suspend
  | resume j => exact addressed .resume
  | goto j label => exact addressed (.goto label)
  | _ => exact .idle

variable {i : Nat} {s : Script} {m : Move σ}

theorem act_phase (i : Nat) (s : Script) (m : Move σ) : (m.act i s).phase = s.phase :=
  ((m.act_handled i s).keeps (σ := Unit) { client := () }).2

theorem act_suspended (suspended : s.state = .suspended) (kept : m.endsSuspension i = false) :
    m.act i s = (m.request? i).elim s s.requestGoto := by
  cases m with
  | stop j => simp_all [act, endsSuspension, request?]
  | resume j => simp_all [act, endsSuspension, request?]
  | suspend j => simp [act, Script.suspend, suspended, request?]
  | goto j label => by_cases own : j = i <;> simp [act, request?, own]
  | _ => rfl

theorem act_running (unsuspended : s.state ≠ .suspended) (straight : m.diverts i = false) :
    m.act i s = s := by
  cases m with
  | stop j => simp_all [act, diverts]
  | suspend j => simp_all [act, diverts]
  | goto j label => simp_all [act, diverts]
  | resume j => simp [act, Script.resume, unsuspended]
  | _ => rfl

end Move

namespace Script

variable {s : Script} {m : Move σ} {i : Nat}

theorem Dormant.act (dormant : s.Dormant) (kept : m.endsSuspension i = false) :
    (m.act i s).Dormant := by
  rcases dormant with suspended | ending
  · refine .inl ?_
    rw [Move.act_suspended suspended kept]
    cases m.request? i with
    | none => exact suspended
    | some label =>
      simp only [Option.elim_some, requestGoto]
      split <;> exact suspended
  · refine .inr ?_
    rw [isEnding, Move.act_phase]
    exact ending

theorem headed_requestGoto (dormant : s.Dormant) (attentive : s.Attentive) (label : String) :
    (s.requestGoto label).Headed (s.program.landing? label) := by
  rcases dormant with suspended | ending
  · have active : s.isActive := by simp [isActive, suspended]
    have pending :
        pendingJump? { s with controls := s.controls ++ [Control.goto label] } = some label := by
      simp only [pendingJump?, Run.poll_append (attentive.unstopped active), Run.poll]
    rw [requestGoto, if_pos active]
    refine .inr ⟨active, ?_, ?_, ?_⟩
    · simp only [heading?, pending]
    · intro w _ _
      rw [pending]
      rfl
    · intro w _ running
      cases suspended.symm.trans running
  · refine .inl ?_
    unfold requestGoto
    split <;> exact ending

theorem Headed.act {target : Option Nat} (headed : s.Headed target)
    (dormant : s.Dormant) (kept : m.endsSuspension i = false) (unasked : m.request? i = none) :
    (m.act i s).Headed target := by
  rcases dormant with suspended | ending
  · rw [Move.act_suspended suspended kept, unasked]
    exact headed
  · refine .inl ?_
    rw [isEnding, Move.act_phase]
    exact ending

theorem headed_of_isSettled (dormant : s.Dormant) (settled : s.isSettled) :
    s.Headed s.heading? := by
  rcases dormant with suspended | ending
  · refine .inr ⟨by simp [isActive, suspended], rfl, ?_, ?_⟩
    · intro w waits own
      simpa [isSettled, waits, own] using settled
    · intro w _ running
      cases suspended.symm.trans running
  · exact .inl ending

theorem resume_suspended (suspended : s.state = .suspended) :
    s.resume.2 = { s with state := .running, controls := s.controls ++ [Control.resume] } := by
  simp only [resume, suspended, beq_self_eq_true, if_true]

/-- A parked script that is resumed is bound for the line that it was bound for before, if no
resumption stands before the jump that it has to look at. -/
theorem headed_resume (attentive : s.Attentive) (parked : s.phase = .waiting .parked)
    (suspended : s.state = .suspended)
    (inTurn : s.controls.head? = some .resume → s.pendingJump? = none) :
    s.resume.2.Headed s.heading? := by
  have unstopped := attentive.unstopped (by simp [isActive, suspended])
  have unasked := attentive.unasked _ parked
  have pending : pendingJump?
      { s with state := .running, controls := s.controls ++ [Control.resume] } =
        s.pendingJump? := by
    simp only [pendingJump?, Run.poll_append unstopped, Run.poll]
  rw [resume_suspended suspended]
  refine .inr ⟨rfl, ?_, ?_, ?_⟩
  · simp only [heading?, pending]
  · intro w waits own
    cases parked.symm.trans waits
    cases own
  · intro w waits _ asked
    rw [pending] at asked
    cases parked.symm.trans waits
    refine ⟨rfl, ?_⟩
    cases queue : s.controls with
    | nil =>
      rw [Run.pendingJump_idle unasked queue] at asked
      cases asked
    | cons message rest =>
      cases message with
      | stop =>
        rw [queue] at unstopped
        exact absurd List.mem_cons_self unstopped
      | resume =>
        rw [inTurn (by rw [queue]; rfl)] at asked
        cases asked
      | goto label => exact ⟨label, rest ++ [Control.resume], rfl⟩

end Script

namespace Engine

variable [Client σ] {e : Engine σ} {i : Nat} {s : Script}

theorem dormant_after (found : e.scripts[i]? = some s) (attentive : s.Attentive)
    (dormant : s.Dormant) {moves : List (Move σ)}
    (kept : ∀ m ∈ moves, m.endsSuspension i = false) :
    along (dispatches i) e moves = [] ∧
      ∃ s', (e.after moves).scripts[i]? = some s' ∧ s'.Attentive ∧ s'.Dormant := by
  refine silent_after (fun s => s.Attentive ∧ s.Dormant) (fun m => m.endsSuspension i = false)
    ?_ ?_ ?_ found ⟨attentive, dormant⟩ kept
  · exact fun holds => Run.silent_of_dormant holds.2
  · intro table wake r r' stepped holds
    exact ⟨Run.step_attentive stepped holds.1, Run.step_dormant stepped holds.1 holds.2⟩
  · intro m s kept holds
    exact ⟨(m.act_handled i s).attentive holds.1, holds.2.act kept⟩

/-- One move during a suspension: a script stays bound for its line unless it is asked to jump. -/
theorem headed_moved (found : e.scripts[i]? = some s) (attentive : s.Attentive)
    (dormant : s.Dormant) {m : Move σ} (kept : m.endsSuspension i = false) :
    ∃ s', (e.moved m).scripts[i]? = some s' ∧ s'.Attentive ∧ s'.Dormant ∧
      s'.program = s.program ∧
      (∀ label, m.request? i = some label →
        s'.Headed (s.program.landing? label)) ∧
      ∀ target, m.request? i = none → s.Headed target → s'.Headed target := by
  rcases m.step_or i with ⟨wake, rfl⟩ | other
  · cases stepped : Run.step? e.table wake ⟨s, e.world⟩ with
    | none =>
      rw [moved_stuck found stepped]
      refine ⟨s, found, attentive, dormant, rfl, ?_, fun _ _ headed => headed⟩
      intro label asked
      cases asked
    | some r =>
      refine ⟨r.script, script_step found stepped, Run.step_attentive stepped attentive,
        Run.step_dormant stepped attentive dormant, Run.step_program stepped, ?_, ?_⟩
      · intro label asked
        cases asked
      · intro target _ headed
        rcases Run.step_heads stepped attentive headed with ⟨_, headed'⟩ | ⟨x, dispatched, _⟩
        · exact headed'
        · cases (Run.silent_of_dormant (r := ⟨s, e.world⟩) dormant).symm.trans dispatched
  · have handled := m.act_handled i s
    refine ⟨_, script_act found other, handled.attentive attentive, dormant.act kept,
      ((handled.keeps e.world).1 .identity (by decide)).2.1, ?_, ?_⟩
    · intro label asked
      have same : m.act i s = s.requestGoto label := by
        cases m with
        | goto j l => by_cases own : j = i <;> simp_all [Move.request?, Move.act]
        | _ => cases asked
      rw [same]
      exact Script.headed_requestGoto dormant attentive label
    · exact fun target unasked headed => headed.act dormant kept unasked

/-- During a suspension a script is bound for the line that was settled at first or for where the
last jump leads that it has been asked for since. -/
theorem headed_after (found : e.scripts[i]? = some s) (attentive : s.Attentive)
    (dormant : s.Dormant) {target : Option Nat} {moves : List (Move σ)}
    (kept : ∀ m ∈ moves, m.endsSuspension i = false)
    (headed : s.Headed target ∨ requests i moves ≠ []) :
    ∃ s', (e.after moves).scripts[i]? = some s' ∧ s'.program = s.program ∧
      s'.Headed ((requests i moves).getLast?.elim target s.program.landing?) := by
  induction moves generalizing e s target with
  | nil => exact ⟨s, found, rfl, headed.resolve_right fun asked => asked rfl⟩
  | cons m rest ih =>
    obtain ⟨s₁, found₁, attentive₁, dormant₁, program, asked, unasked⟩ :=
      headed_moved found attentive dormant (kept m List.mem_cons_self)
    have kept' := fun m' member => kept m' (List.mem_cons_of_mem m member)
    rw [requests_cons] at headed ⊢
    cases request : m.request? i with
    | none =>
      rw [request, Option.toList_none, List.nil_append] at headed
      rw [Option.toList_none, List.nil_append, ← program]
      exact ih found₁ attentive₁ dormant₁ kept' (headed.imp_left (unasked target request))
    | some label =>
      have last : ([label] ++ requests i rest).getLast?.elim target s.program.landing? =
          (requests i rest).getLast?.elim (s.program.landing? label) s.program.landing? := by
        rw [List.getLast?_append]
        cases (requests i rest).getLast? <;> rfl
      rw [Option.toList_some, last, ← program]
      refine ih found₁ attentive₁ dormant₁ kept' (.inl ?_)
      rw [program]
      exact asked label request

/-! ### Resumption -/

theorem first_after_resume {target : Option Nat}
    (found : e.scripts[i]? = some s) (attentive : s.Attentive) (headed : s.Headed target)
    (unsuspended : s.state ≠ .suspended) {later : List (Move σ)}
    (straight : ∀ m ∈ later, m.diverts i = false) {x : Nat}
    (first : (along (dispatches i) e later).head? = some x) : target = some x := by
  have run := first_dispatch
    (fun s => s.Attentive ∧ s.Headed target ∧ s.state ≠ .suspended)
    (fun x => target = some x) (fun m => m.diverts i = false) ?_ ?_ found
    ⟨attentive, headed, unsuspended⟩ straight
  · rcases run with ⟨nothing, _⟩ | ⟨y, dispatched, right⟩
    · rw [nothing] at first
      cases first
    · cases first.symm.trans dispatched
      exact right
  · rintro table wake r r' stepped ⟨attentive, headed, unsuspended⟩
    refine (Run.step_heads stepped attentive headed).imp_left ?_
    rintro ⟨silent, headed'⟩
    refine ⟨silent, Run.step_attentive stepped attentive, headed', ?_⟩
    rcases Run.step_cases stepped with turn | ⟨q, line, turn, _⟩
    · rcases Run.ended_state attentive turn with same | ⟨stopped, _⟩
      · rw [same]
        exact unsuspended
      · rw [stopped]
        decide
    · exact absurd turn (Run.dispatches_none.mp silent q line)
  · rintro m s straight ⟨attentive, headed, unsuspended⟩
    rw [Move.act_running unsuspended straight]
    exact ⟨attentive, headed, unsuspended⟩

/-- A parked script that is resumed dispatches its line at once, if no jump is the next thing for it
to look at and there is nothing to wait for before the line. -/
theorem dispatches_of_resume (found : e.scripts[i]? = some s) (attentive : s.Attentive)
    (parked : s.phase = .waiting .parked) (suspended : s.state = .suspended)
    (unasked : ∀ label, s.controls.head? ≠ some (.goto label)) {p : Nat} {command : Command}
    (line : s.line = some p) (present : s.program.command? p = some command)
    (free : command.instant ∨ e.roundtime = 0 ∧ ¬ 0 < s.delay) :
    dispatches i (e.moved (.resume i)) (.step i .message) = [p] := by
  have unstopped := attentive.unstopped (by simp [Script.isActive, suspended])
  have found' : (e.moved (.resume i)).scripts[i]? = some s.resume.2 := script_own found _
  obtain ⟨rest, queue⟩ : ∃ rest, s.controls ++ [Control.resume] = .resume :: rest := by
    cases messages : s.controls with
    | nil => exact ⟨[], rfl⟩
    | cons message rest =>
      rw [messages] at unasked unstopped
      cases message with
      | stop => exact absurd List.mem_cons_self unstopped
      | resume => exact ⟨rest ++ [Control.resume], rfl⟩
      | goto label => exact absurd rfl (unasked label)
  have here : Script.command? { s with state := .running, controls := rest } = some command := by
    simp only [Script.command?, line, Option.bind_some, present]
  have approaches := Run.approach_free
    (q := ⟨{ s with state := .running, controls := rest }, (e.moved (.resume i)).world⟩) rfl here
    free
  rw [dispatches_step found', Script.resume_suspended suspended, queue]
  rw [Run.dispatches?, Run.turn_of_resume parked rfl, approaches]
  simp only [line, Option.toList_some]

/-- A suspended script starts no command: whatever happens until it is resumed or stopped, it
dispatches no line. If it is parked then, it is bound for the line that its place in the program or
the last jump asked for has settled, which is the line that it is parked at unless it has yet to
look at a jump. When it is resumed and not stopped, suspended or asked to jump, it goes by the
message that it looks at first: with a resumption before the jump it dispatches the line that it is
parked at, otherwise the line that it is bound for. -/
theorem suspended_dispatches_nothing (reachable : e.Reachable) (found : e.scripts[i]? = some s)
    (suspended : s.suspend.1 = true) (between : List (Move σ))
    (kept : ∀ m ∈ between, m.endsSuspension i = false) :
    let e₀ := e.moved (.suspend i)
    let e₁ := e₀.after between
    along (dispatches i) e₀ between = [] ∧
    ∃ s₁, e₁.scripts[i]? = some s₁ ∧ (s₁.isParked →
      ∃ p command, s₁.line = some p ∧ s₁.program.command? p = some command ∧
        (s₁.pendingJump? = none → s₁.heading? = some p) ∧
        (∀ first second s₀, between = first ++ second → (e₀.after first).scripts[i]? = some s₀ →
          s₀.isSettled ∨ requests i second ≠ [] →
          s₁.heading? = (requests i second).getLast?.elim s₀.heading? s₁.program.landing?) ∧
        ((s₁.controls.head? = some .resume → s₁.pendingJump? = none) →
          ∀ later, (∀ m ∈ later, m.diverts i = false) → ∀ x,
            (along (dispatches i) (e₁.moved (.resume i)) later).head? = some x →
            s₁.heading? = some x) ∧
        ((∀ label, s₁.controls.head? ≠ some (.goto label)) →
          command.instant ∨ e₁.roundtime = 0 ∧ ¬ 0 < s₁.delay →
          dispatches i (e₁.moved (.resume i)) (.step i .message) = [p])) := by
  intro e₀ e₁
  have found₀ : e₀.scripts[i]? = some s.suspend.2 := script_own found _
  have attentive₀ := Script.Handled.suspend.attentive (reachable.attentive found)
  have dormant₀ : s.suspend.2.Dormant := by
    unfold Script.suspend at suspended ⊢
    split at suspended
    · next running =>
      rw [if_pos running]
      exact .inl rfl
    · cases suspended
  obtain ⟨silent, s₁, found₁, attentive₁, dormant₁⟩ := dormant_after found₀ attentive₀ dormant₀ kept
  refine ⟨silent, s₁, found₁, fun isParked => ?_⟩
  have parked := Script.phase_of_isParked isParked
  have onTheWay : ¬ s₁.isEnding := by simp [Script.isEnding, parked]
  have suspended₁ : s₁.state = .suspended := dormant₁.resolve_right onTheWay
  obtain ⟨command, here⟩ := Option.isSome_iff_exists.mp (attentive₁.placed _ parked rfl)
  obtain ⟨p, line, present⟩ := Option.bind_eq_some_iff.mp here
  refine ⟨p, command, line, present, ?_, ?_, ?_, ?_⟩
  · intro unasked
    simp only [Script.heading?, unasked, parked, line]
  · rintro first second s₂ rfl found₂ settled
    obtain ⟨_, _, same, attentive₂, dormant₂⟩ := dormant_after found₀ attentive₀ dormant₀
      fun m member => kept m (List.mem_append_left _ member)
    cases found₂.symm.trans same
    obtain ⟨_, same, program, headed⟩ := headed_after found₂ attentive₂ dormant₂
      (fun m member => kept m (List.mem_append_right _ member))
      (settled.imp_left (Script.headed_of_isSettled dormant₂))
    rw [← after_append] at same
    cases found₁.symm.trans same
    rw [program]
    exact (headed.resolve_left onTheWay).heading
  · intro inTurn later straight x first
    have found' : (e₁.moved (.resume i)).scripts[i]? = some s₁.resume.2 := script_own found₁ _
    have running : s₁.resume.2.state ≠ .suspended := by
      simp [Script.resume_suspended suspended₁]
    exact first_after_resume found' (Script.Handled.resume.attentive attentive₁)
      (Script.headed_resume attentive₁ parked suspended₁ inTurn) running straight first
  · intro unasked free
    exact dispatches_of_resume found₁ attentive₁ parked suspended₁ unasked line present free

def dozing : Engine MemoryClient :=
  (plain {}).after [.start "dozing" "pause 1\necho one\nthere:\necho two" [], .step 0 .message,
    .step 0 .message]

/-- The pause is over, the script is parked before the next line and then asked to jump. -/
def nap : List (Move MemoryClient) :=
  [.elapse 1000, .step 0 .deadline, .step 0 .message, .goto 0 "there", .step 0 .message,
    .step 0 .message, .publish .prompt]

theorem suspended_dispatches_nothing_nap :
    along (dispatches 0) (dozing.moved (.suspend 0)) nap = [] ∧
    dispatches 0 (((dozing.moved (.suspend 0)).after nap).moved (.resume 0)) (.step 0 .message) =
      [3] ∧
    ∀ later, (∀ m ∈ later, m.diverts 0 = false) → ∀ x,
      (along (dispatches 0) (((dozing.moved (.suspend 0)).after nap).moved (.resume 0))
        later).head? = some x → x = 3 := by
  have reachable : dozing.Reachable := by
    unfold dozing
    exact (plain_reachable _).after _
  have facts : (dozing.scripts[0]?).map (fun s : Script => s.suspend.1) = some true ∧
      (((dozing.moved (.suspend 0)).after nap).scripts[0]?).map (fun s : Script =>
        (s.isParked, s.controls, s.line, (s.program.command? 3).map (·.instant))) =
        some (true, [], some 3, some true) := by
    decide +kernel
  obtain ⟨first, second⟩ := facts
  obtain ⟨s, found, suspended⟩ := Option.map_eq_some_iff.mp first
  obtain ⟨s₁, found₁, same⟩ := Option.map_eq_some_iff.mp second
  obtain ⟨parked, same⟩ := Prod.mk.inj same
  obtain ⟨controls, same⟩ := Prod.mk.inj same
  obtain ⟨line, instant⟩ := Prod.mk.inj same
  obtain ⟨silent, s', found', rest⟩ :=
    suspended_dispatches_nothing reachable found suspended nap (by decide)
  cases found₁.symm.trans found'
  obtain ⟨p, command, line', present, heading, _, first, progress⟩ := rest parked
  cases line.symm.trans line'
  rw [present] at instant
  have attentive := ((reachable.move _).after nap).attentive found₁
  have waits := Script.phase_of_isParked parked
  have unasked := Run.pendingJump_idle (attentive.unasked _ waits) controls
  refine ⟨silent, progress (by simp [controls]) (.inl (Option.some.inj instant)), ?_⟩
  intro later straight x there
  have same := first (fun _ => unasked) later straight x there
  exact Option.some.inj (same.symm.trans (heading unasked))

/-- The pause is over, and the script is parked before the next line. It is resumed, suspended again
and asked to jump before it looks at its messages. -/
def relapse : List (Move MemoryClient) :=
  [.elapse 1000, .step 0 .deadline, .step 0 .message, .resume 0, .suspend 0, .goto 0 "there"]

/-- A script that is asked to jump and then resumed dispatches the line that it is parked at,
because it has yet to look at an earlier resumption. -/
theorem parked_line_before_jump :
    let e := (dozing.moved (.suspend 0)).after relapse
    ∃ s : Script, e.scripts[0]? = some s ∧ s.isParked ∧ s.state = .suspended ∧ s.line = some 1 ∧
      s.program.landing? "there" = some 3 ∧
      dispatches 0 (e.moved (.resume 0)) (.step 0 .message) = [1] := by
  intro e
  have facts : (e.scripts[0]?).map (fun s : Script =>
      (s.isParked, s.state, s.line, s.program.landing? "there")) =
        some (true, .suspended, some 1, some 3) ∧
      dispatches 0 (e.moved (.resume 0)) (.step 0 .message) = [1] := by
    decide +kernel
  obtain ⟨there, dispatched⟩ := facts
  obtain ⟨s, found, same⟩ := Option.map_eq_some_iff.mp there
  obtain ⟨parked, same⟩ := Prod.mk.inj same
  obtain ⟨suspended, same⟩ := Prod.mk.inj same
  obtain ⟨line, landing⟩ := Prod.mk.inj same
  exact ⟨s, found, parked, suspended, line, landing, dispatched⟩

end Engine

end Questline
