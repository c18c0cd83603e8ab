import Questline.Proofs.Attention
import Questline.Proofs.Holdings

/-! How a script that waits comes to its end when it is stopped. Whatever it attends to on the way,
nothing makes it take up a line again, and each message that it looks at brings it nearer to the
end. -/
namespace Questline

variable {σ : Type} {wake : Wake}

/-! ### Scripts that have been told to stop -/

/-- A custom command that stops its script does not go on with its arguments. -/
def CommandTable.StopsAtOnce (table : CommandTable) : Prop :=
  ∀ name handler, table.get? name = some (.custom handler) →
    ∀ arguments, .stop ∈ (handler arguments).1 → (handler arguments).2 ≠ .execute

theorem CommandTable.standard_stopsAtOnce : standard.StopsAtOnce := by
  intro name handler found
  obtain ⟨_, same, _⟩ := standard_get found
  cases same

/-- Whoever waits although it has stopped is told so by a message that it has yet to look at. -/
def Script.Told (s : Script) : Prop :=
  ∀ w, s.phase = .waiting w → s.state = .stopped → .stop ∈ s.controls

namespace Run

variable [Client σ]

theorem grant_state {r r' : Run σ} {request : Request} (granted : r.grant request = .ok r')
    (goesOn : request ≠ .stop) : r'.script.state = r.script.state := by
  cases request with
  | stop => exact absurd rfl goesOn
  | echo text => cases granted; rfl
  | trace level text => cases granted; exact trace_keeps r level text .state (by decide)
  | publish event => cases granted; rfl
  | goto label =>
    obtain ⟨_, _, _, kept⟩ := goto_ok granted
    exact kept .state (by decide)
  | setSpecial name value => cases granted; exact setSpecial_keeps r name _ .state (by decide)
  | inspect names => cases granted; rfl

theorem grantAll_state {requests : List Request} (goesOn : .stop ∉ requests) (r : Run σ) :
    (r.grantAll requests).1.script.state = r.script.state := by
  induction requests generalizing r with
  | nil => rfl
  | cons request rest ih =>
    unfold grantAll
    split
    · next first =>
      have here := grant_state first fun same => goesOn (same ▸ List.mem_cons_self)
      exact (ih (fun later => goesOn (List.mem_cons_of_mem request later)) _).trans here
    · rfl

/-- On the way to a builtin command the state stays, unless a custom command stops the script and
goes on. -/
theorem follow_state {r q : Run σ} {shown : String} {arguments : List Char} {action : Option Action}
    {way : Way} (led : r.follow shown arguments action = (q, way))
    (fit : ∀ handler, action = some (.custom handler) →
      .stop ∈ (handler (String.ofList arguments)).1 →
      (handler (String.ofList arguments)).2 ≠ .execute)
    (goesOn : ∀ outcome, way ≠ .there (.ended outcome)) : q.script.state = r.script.state := by
  unfold follow at led
  split at led
  · cases led
    exact absurd rfl (goesOn _)
  · cases led
    rfl
  · cases led
    rfl
  · cases led
    rfl
  · next handler =>
    simp only at led
    split at led
    · cases led
      exact absurd rfl (goesOn _)
    · next answer =>
      cases reaction : (handler (String.ofList arguments)).2 with
      | execute =>
        have quiet : .stop ∉ (handler (String.ofList arguments)).1 :=
          fun stops => fit handler rfl stops reaction
        have granted := grantAll_state quiet r
        rw [answer] at granted
        cases led
        exact granted
      | _ =>
        rw [reaction] at led
        cases led
        exact absurd rfl (goesOn _)

theorem way_state {table : CommandTable} (fit : table.StopsAtOnce) {r q : Run σ} {line : List Char}
    {way : Way} (led : r.way table line = (q, way))
    (goesOn : ∀ outcome, way ≠ .there (.ended outcome)) : q.script.state = r.script.state := by
  unfold Run.way at led
  split at led
  · cases led
    exact absurd rfl (goesOn _)
  · exact (follow_state led (fun handler custom => fit _ handler custom _) goesOn).trans
      (trace_keeps r 2 _ .state (by decide))

theorem dispatch_state {table : CommandTable} (fit : table.StopsAtOnce) {r q : Run σ}
    {line : List Char} {command : Builtin} {arguments : String}
    (led : r.dispatch table line = (q, .command command arguments)) :
    q.script.state = r.script.state := by
  fun_induction dispatch table r line with
  | case1 r line q' destination way =>
    cases led
    exact way_state fit way fun outcome same => by cases same
  | case2 r line q' rest way ih =>
    exact (ih led).trans (way_state fit way fun outcome same => by cases same)

theorem execute_state {table : CommandTable} (fit : table.StopsAtOnce) {q : Run σ}
    {line : List Char} {w : Wait} (waits : (q.execute table line).2 = .waiting w) :
    (q.execute table line).1.script.state = q.script.state := by
  rcases execute_cases table q line with ⟨q', command, arguments, led, done⟩ | ⟨q', _, led, done⟩
  · rw [done] at waits ⊢
    have untouched : .state ∉ command.touches := by
      intro touched
      have brief : command.waits = false := by
        cases command <;> first | rfl | (simp [Builtin.touches] at touched)
      have isOver := Commands.perform_over q' arguments command brief
      rw [Commands.Over, waits] at isOver
      cases isOver
    have performed : (Commands.perform q' arguments command).1.script.state = q'.script.state :=
      Commands.perform_keeps q' arguments command .state untouched
    exact performed.trans (dispatch_state fit led)
  · have brief := dispatch_brief led
    rw [done] at waits
    cases waits
    cases brief

theorem waited_of_stopped {table : CommandTable} (fit : table.StopsAtOnce) {r r' : Run σ} {w : Wait}
    (stepped : r.step? table wake = some r') (attentive : r.script.Attentive)
    (waits : r'.script.phase = .waiting w) (stopped : r'.script.state = .stopped) :
    (∃ w', r.script.phase = .waiting w') ∧ r.script.state = .stopped ∧
      (.stop ∈ r.script.controls → .stop ∈ r'.script.controls) := by
  rcases step_cases stepped with turn | ⟨q, line, turn, rfl⟩
  · cases turn_turns attentive turn with
    | free free => exact absurd waits (Script.not_waiting free w)
    | still before _ _ _ _ _ heeds state => exact ⟨⟨_, before⟩, state.symm.trans stopped, heeds⟩
    | comes going _ heeds state _ stands =>
      cases stands with
      | wait =>
        have before := state.symm.trans stopped
        rcases going with active | waited
        · rw [Script.isActive, before] at active
          cases active
        · exact ⟨waited, before, heeds⟩
      | pass => cases waits
  · cases turn_turns attentive turn with
    | comes _ _ _ _ _ stands =>
      cases stands with
      | @execute command running _ =>
        have same := execute_state fit (conclude_waiting waits)
        generalize q.execute table (expand q.script.vars q.around command.text).toList = result
          at same waits stopped
        obtain ⟨q', outcome⟩ := result
        cases conclude_waiting waits
        cases running.symm.trans (same.symm.trans stopped)

theorem step_told {table : CommandTable} (fit : table.StopsAtOnce) {r r' : Run σ}
    (stepped : r.step? table wake = some r') (attentive : r.script.Attentive)
    (told : r.script.Told) :
    r'.script.Told := by
  intro w waits stopped
  obtain ⟨⟨w', waited⟩, before, heeds⟩ := waited_of_stopped fit stepped attentive waits stopped
  exact heeds (told w' waited before)

end Run

theorem Script.Handled.told {s s' : Script} (handled : s.Handled s') (told : s.Told) : s'.Told := by
  cases handled with
  | idle => exact told
  | stop =>
    unfold Script.stop
    split
    · exact told
    · exact fun w _ _ => List.mem_append_right _ (List.mem_singleton_self _)
  | suspend =>
    unfold Script.suspend
    split
    · exact fun _ _ stopped => by cases stopped
    · exact told
  | resume =>
    unfold Script.resume
    split
    · exact fun _ _ stopped => by cases stopped
    · exact told
  | goto label =>
    unfold Script.requestGoto
    split
    · exact fun w waits stopped => List.mem_append_left _ (told w waits stopped)
    · exact told

theorem Engine.Reachable.told [Client σ] {e : Engine σ} (reachable : e.Reachable)
    (fit : e.table.StopsAtOnce) {i : Nat} {s : Script} (found : e.scripts[i]? = some s) :
    s.Told := by
  induction reachable generalizing i s with
  | create created =>
    rw [(create_ok created).2] at found
    cases found
  | @move e before m ih =>
    rw [table_moved] at fit
    rcases script_moved found with ⟨s₀, was, fares⟩ | ⟨_, name, source, arguments, rfl⟩
    · cases fares with
      | aside handled => exact handled.told (ih fit was)
      | step _ stepped => exact Run.step_told fit stepped (before.attentive was) (ih fit was)
    · exact fun _ waits => by cases waits

/-! ### On the way to the end -/

namespace Script

/-- A script that has been stopped and has begun: if it waits, the message that says so is there. -/
structure Leaving (s : Script) : Prop where
  stopped : s.state = .stopped
  begun : s.phase ≠ .fresh
  told : ∀ w, s.phase = .waiting w → .stop ∈ s.controls

/-- An upper bound on the steps that a script which leaves has still to take. -/
def remaining (s : Script) : Nat :=
  match s.phase with
  | .fresh => 4
  | .waiting _ => s.controls.length + 3
  | .ready => 3
  | .ending => 2
  | .stopped => 1
  | .finished => 0

theorem remaining_eq_zero {s : Script} : s.remaining = 0 ↔ s.isFinished := by
  unfold remaining isFinished
  cases s.phase <;> simp

theorem Leaving.of_isEnding {s : Script} (stopped : s.state = .stopped) (ending : s.isEnding) :
    s.Leaving := by
  refine ⟨stopped, fun fresh => ?_, fun w waits => ?_⟩
  · rw [isEnding, fresh] at ending
    cases ending
  · rw [isEnding, waits] at ending
    cases ending

theorem Leaving.isActive {s : Script} (leaving : s.Leaving) : s.isActive = false := by
  simp [Script.isActive, leaving.stopped]

theorem Leaving.act {s : Script} (leaving : s.Leaving) (i : Nat) (m : Move σ) : m.act i s = s := by
  cases m with
  | stop j => simp [Move.act, Script.stop, leaving.stopped]
  | suspend j => simp [Move.act, Script.suspend, leaving.stopped]
  | resume j => simp [Move.act, Script.resume, leaving.stopped]
  | goto j label => simp [Move.act, Script.requestGoto, leaving.isActive]
  | _ => rfl

end Script

namespace Run

/-- What a script that leaves may still touch when it gets what it has waited for. -/
def lastTouched : List Part :=
  [.position, .state, .watch, .stream, .events, .locals, .log, .next]

structure Departs (wake : Wake) (r r' : Run σ) : Prop where
  leaving : r'.script.Leaving
  near : r'.script.remaining ≤ r.script.remaining
  sooner : wake = .message → r'.script.remaining < r.script.remaining
  aside : Keeps lastTouched r r'
  quiet : wake = .message → Keeps [.position, .state, .watch, .stream, .events] r r' ∧
    r'.script.events = r.script.events ++ if r'.script.isFinished then [ScriptEvent.stopped] else []

/-- A wait is over without any effect or goes on with fewer messages left. -/
theorem departs_of_waiting {r q : Run σ} {w : Wait} (waits : r.script.phase = .waiting w)
    (leaving : r.script.Leaving) (aside : Keeps [.position, .stream] r q)
    (place : q.script.phase = .ready ∨ (∃ w', q.script.phase = .waiting w') ∧
      .stop ∈ q.script.controls ∧ q.script.controls.length < r.script.controls.length) :
    Departs .message r q := by
  have state : q.script.state = r.script.state := aside .state (by decide)
  have events : q.script.events = r.script.events := aside .events (by decide)
  have sooner : q.script.remaining < r.script.remaining := by
    rcases place with ready | ⟨⟨w', waits'⟩, _, fewer⟩
    · have positive := List.length_pos_of_mem (leaving.told w waits)
      simp only [Script.remaining, waits, ready]
      omega
    · simp only [Script.remaining, waits, waits']
      omega
  refine ⟨?_, sooner.le, fun _ => sooner, aside.mono (by decide),
    fun _ => ⟨aside.mono (by decide), ?_⟩⟩
  · rcases place with ready | ⟨⟨w', waits'⟩, told, _⟩
    · exact ⟨state.trans leaving.stopped, by simp [ready], by simp [ready]⟩
    · exact ⟨state.trans leaving.stopped, by simp [waits'], fun _ _ => told⟩
  · rcases place with ready | ⟨⟨w', waits'⟩, _⟩ <;> simp [Script.isFinished, *]

/-- A script that leaves although it has yet to look at the message that tells it so: it may be over
with its wait or wait on. -/
theorem departs_unheard {r q : Run σ} {w : Wait} (waits : r.script.phase = .waiting w)
    (leaving : r.script.Leaving) (aside : Keeps lastTouched r q)
    (stopped : q.script.state = .stopped)
    (place : (q.script.phase = .ready ∨ q.script.phase = .ending) ∨
      (∃ w', q.script.phase = .waiting w') ∧ q.script.controls = r.script.controls)
    (unheard : wake ≠ .message) : Departs wake r q := by
  refine ⟨?_, ?_, fun heard => absurd heard unheard, aside, fun heard => absurd heard unheard⟩
  · rcases place with (free | free) | ⟨⟨w', waits'⟩, same⟩
    · exact ⟨stopped, by simp [free], by simp [free]⟩
    · exact ⟨stopped, by simp [free], by simp [free]⟩
    · exact ⟨stopped, by simp [waits'], fun _ _ => same ▸ leaving.told w waits⟩
  · rcases place with (free | free) | ⟨⟨w', waits'⟩, same⟩
    · simp only [Script.remaining, waits, free]
      omega
    · simp only [Script.remaining, waits, free]
      omega
    · simp only [Script.remaining, waits, waits', same, Nat.le_refl]

theorem conclude_place {q : Run σ} {outcome : Outcome} (isOver : outcome.isOver = true) :
    (conclude (q, outcome)).script.phase = .ready ∨
      (conclude (q, outcome)).script.phase = .ending := by
  cases outcome with
  | done => exact .inl rfl
  | fault f =>
    simp only [conclude, handleFault]
    split
    · exact .inr rfl
    · exact .inl rfl
  | _ => cases isOver

theorem meet_departs {r : Run σ} {w : Wait} {event : GameEvent} {stream : Stream}
    {result : Run σ × Outcome} (waits : r.script.phase = .waiting w) (leaving : r.script.Leaving)
    (met : (r.withStream stream).meet w event = some result) :
    Departs .event r (conclude result) := by
  obtain ⟨kept, isOver⟩ := meet_some met
  have way := ((withStream_keeps r stream).trans (release_keeps _ w)).trans kept
  refine departs_unheard waits leaving ?_ ?_ (.inl (conclude_place isOver)) (by decide)
  · exact (way.trans (conclude_keeps result.1 result.2)).mono (by decide)
  · have state : result.1.script.state = r.script.state := way .state (by decide)
    exact ((conclude_free isOver).2.trans state).trans leaving.stopped

variable [Client σ]

theorem heed_departs {r : Run σ} {w : Wait} {message : Control} {rest : List Control}
    (waits : r.script.phase = .waiting w) (asked : r.script.controls = message :: rest)
    (leaving : r.script.Leaving) :
    ∃ r', r.heed w message rest = .ended r' ∧ Departs .message r r' := by
  have heeded := fun label => setControls_keeps r label rest
  have cut : ∀ label, Departs .message r (interrupt
      { r with script := { r.script with requestedLabel := label, controls := rest } } w) := by
    intro label
    refine departs_of_waiting waits leaving ?_ (.inl rfl)
    exact (((heeded label).trans (release_keeps _ w)).trans (moveOn_keeps _)).mono (by decide)
  cases message with
  | stop => exact ⟨_, rfl, cut r.script.requestedLabel⟩
  | goto label => exact ⟨_, rfl, cut (some label)⟩
  | resume =>
    have told : .stop ∈ rest := by
      have member := leaving.told w waits
      rw [asked] at member
      simpa using member
    have fewer : rest.length < r.script.controls.length := by
      rw [asked]
      exact Nat.lt_succ_self _
    have here := heeded r.script.requestedLabel
    cases w with
    | parked =>
      have comes := approach_comesUp { r with script := { r.script with controls := rest } }
      simp only [heed]
      generalize approach { r with script := { r.script with controls := rest } } = turn at comes ⊢
      cases comes with
      | wait =>
        refine ⟨_, rfl, departs_of_waiting waits leaving ?_ (.inr ⟨⟨_, rfl⟩, told, fewer⟩)⟩
        exact (here.trans (setPhase_keeps _ _)).mono (by decide)
      | pass =>
        refine ⟨_, rfl, departs_of_waiting waits leaving ?_ (.inl rfl)⟩
        exact (here.trans (moveOn_keeps _)).mono (by decide)
      | execute running => cases leaving.stopped.symm.trans running
    | _ =>
      refine ⟨_, rfl, departs_of_waiting waits leaving (here.mono (by decide)) ?_⟩
      exact .inr ⟨⟨_, waits⟩, told, fewer⟩

theorem expire_departs {r : Run σ} {w : Wait} (waits : r.script.phase = .waiting w)
    (leaving : r.script.Leaving) : ∃ r', r.expire w = .ended r' ∧ Departs .deadline r r' := by
  have comesUp : ∀ {t : Turn σ}, ComesUp r t → ∃ r', t = .ended r' ∧ Departs .deadline r r' := by
    intro t comes
    cases comes with
    | wait =>
      exact ⟨_, rfl, departs_unheard waits leaving ((setPhase_keeps r _).mono (by decide))
        leaving.stopped (.inr ⟨⟨_, rfl⟩, rfl⟩) (by decide)⟩
    | pass =>
      exact ⟨_, rfl, departs_unheard waits leaving ((moveOn_keeps r).mono (by decide))
        leaving.stopped (.inl (.inl rfl)) (by decide)⟩
    | execute running => cases leaving.stopped.symm.trans running
  have freed : ∀ {q : Run σ}, Keeps lastTouched r q → q.script.state = .stopped →
      Departs .deadline r q.moveOn := fun kept stopped =>
    departs_unheard waits leaving ((kept.trans (moveOn_keeps _)).mono (by decide)) stopped
      (.inl (.inl rfl)) (by decide)
  have released := release_keeps r w
  have state : (r.release w).script.state = r.script.state := released .state (by decide)
  cases w with
  | roundtime _ => exact comesUp (throttle_comesUp r)
  | delay _ => exact comesUp (arrive_comesUp r)
  | hit id pending deadline =>
    have traced := released.trans (trace_keeps _ 1 "matchwait timed out")
    have state : _ = r.script.state := traced .state (by decide)
    exact ⟨_, rfl, freed (traced.mono (by decide)) (state.trans leaving.stopped)⟩
  | _ => exact ⟨_, rfl, freed (released.mono (by decide)) (state.trans leaving.stopped)⟩

theorem wake_departs {r : Run σ} {w : Wait} {t : Turn σ} (waits : r.script.phase = .waiting w)
    (leaving : r.script.Leaving) (woken : r.wake? w wake = some t) :
    ∃ r', t = .ended r' ∧ Departs wake r r' := by
  cases wake with
  | message =>
    simp only [wake?] at woken
    split at woken
    · next asked =>
      cases woken
      exact heed_departs waits asked leaving
    · cases woken
  | event =>
    obtain ⟨_, event, stream, _, _, rfl⟩ := wake_event woken
    cases met : (r.withStream stream).meet w event with
    | some result => exact ⟨_, rfl, meet_departs waits leaving met⟩
    | none =>
      exact ⟨_, rfl, departs_unheard waits leaving ((withStream_keeps r stream).mono (by decide))
        leaving.stopped (.inr ⟨⟨w, waits⟩, rfl⟩) (by decide)⟩
  | deadline =>
    simp only [wake?] at woken
    split at woken
    · cases woken
      exact expire_departs waits leaving
    · cases woken

theorem turn_departs {r : Run σ} {t : Turn σ} (leaving : r.script.Leaving)
    (turn : r.turn? wake = some t) : ∃ r', t = .ended r' ∧ Departs wake r r' := by
  have nearer : ∀ {r' : Run σ}, r'.script.Leaving → r'.script.remaining < r.script.remaining →
      Keeps [.position, .state, .watch, .stream, .events] r r' →
      r'.script.events =
        r.script.events ++ (if r'.script.isFinished then [ScriptEvent.stopped] else []) →
      Departs wake r r' := fun leaving sooner kept told =>
    ⟨leaving, sooner.le, fun _ => sooner, kept.mono (by decide), fun _ => ⟨kept, told⟩⟩
  cases phase : r.script.phase with
  | fresh => exact absurd phase leaving.begun
  | ready =>
    rw [turn?, phase] at turn
    simp only [proceed, leaving.isActive, Bool.not_false, if_true] at turn
    cases turn
    refine ⟨_, rfl, nearer (.of_isEnding leaving.stopped rfl) ?_
      ((finish_keeps r).mono (by decide)) (List.append_nil _).symm⟩
    simp [Script.remaining, phase, finish, setPhase]
  | waiting w =>
    rw [turn?, phase] at turn
    exact wake_departs phase leaving turn
  | ending =>
    rw [turn?, phase] at turn
    cases turn
    refine ⟨_, rfl, nearer (.of_isEnding rfl rfl) ?_ ?_ (List.append_nil _).symm⟩
    · simp [Script.remaining, phase, shutDown, setPhase]
    · exact (((clearMatches_keeps r).trans (stop_keeps _)).trans (setPhase_keeps _ _)).mono
        (by decide)
  | stopped =>
    rw [turn?, phase] at turn
    cases turn
    refine ⟨_, rfl, nearer (.of_isEnding leaving.stopped rfl) ?_ ?_ rfl⟩
    · simp [Script.remaining, phase, sayGoodbye, setPhase]
    · exact ((emit_keeps r _).trans (setPhase_keeps _ _)).mono (by decide)
  | finished =>
    rw [turn?, phase] at turn
    cases turn

theorem turn_of_not_waiting {r : Run σ} (free : r.script.isWaiting = false) :
    r.turn? wake = r.turn? .message := by
  unfold turn?
  cases phase : r.script.phase with
  | waiting w => exact absurd phase (Script.not_waiting free w)
  | _ => rfl

theorem step_departs {table : CommandTable} {r r' : Run σ} (leaving : r.script.Leaving)
    (stepped : r.step? table wake = some r') : Departs wake r r' := by
  obtain ⟨t, turn, rfl⟩ := Option.map_eq_some_iff.mp stepped
  obtain ⟨_, rfl, departs⟩ := turn_departs leaving turn
  exact departs

theorem looks_of_leaving (table : CommandTable) {r : Run σ} (leaving : r.script.Leaving)
    (stuck : r.step? table .message = none) : r.script.isFinished := by
  have turn := Option.map_eq_none_iff.mp stuck
  cases phase : r.script.phase with
  | waiting w =>
    obtain ⟨message, rest, asked⟩ := List.exists_cons_of_ne_nil
      (List.ne_nil_of_mem (leaving.told w phase))
    simp [turn?, phase, wake?, asked] at turn
  | finished => simp only [Script.isFinished, phase]
  | _ => simp [turn?, phase] at turn

theorem step_finished {table : CommandTable} {r : Run σ} (finished : r.script.isFinished) :
    r.step? table wake = none := by
  unfold Script.isFinished at finished
  split at finished
  · next phase => simp only [step?, turn?, phase, Option.map_none]
  · cases finished

end Run

/-! ### Runs after a stop -/

/-- A move is a step in which the script at an index looks at a message if it waits. -/
def Move.looks (i : Nat) : Move σ → Bool
  | step j wake => j == i && wake == .message
  | _ => false

theorem Move.not_looks {i : Nat} {m : Move σ} (other : m.isStep i = false) : m.looks i = false := by
  cases m with
  | step j wake => simp_all [isStep, looks]
  | _ => rfl

theorem Run.Keeps.around {parts : List Part} {r r' : Run σ} (kept : Run.Keeps parts r r')
    (world : World σ) : Run.Keeps parts ⟨r.script, world⟩ ⟨r'.script, world⟩ := by
  intro p outside
  cases p with
  | globals | stream | client => rfl
  | clock => exact ⟨rfl, rfl⟩
  | _ => exact kept _ outside

/-- What has become of a script that leaves after it has looked at some messages and, unless it was
quiet, at other things. -/
structure Script.Left (world : World σ) (s s' : Script) (looked : Nat) (quiet : Prop) : Prop where
  leaving : s'.Leaving
  sooner : s'.remaining ≤ s.remaining - looked
  aside :
    Run.Keeps [.position, .state, .watch, .events, .locals, .log, .next] ⟨s, world⟩ ⟨s', world⟩
  quietly : quiet → Run.Keeps [.position, .state, .watch, .events] ⟨s, world⟩ ⟨s', world⟩ ∧
    s'.events = s.events ++ if s'.isFinished && !s.isFinished then [ScriptEvent.stopped] else []
  rests : s.isFinished → s' = s

namespace Script.Left

variable {world : World σ} {s s' s'' : Script} {looked more : Nat} {quiet quiet' : Prop}

theorem refl (world : World σ) (leaving : s.Leaving) : Left world s s 0 quiet where
  leaving := leaving
  sooner := Nat.le_refl _
  aside := .refl _ _
  quietly _ := ⟨.refl _ _, by simp⟩
  rests _ := rfl

theorem trans (first : Left world s s' looked quiet) (second : Left world s' s'' more quiet') :
    Left world s s'' (looked + more) (quiet ∧ quiet') := by
  constructor
  · exact second.leaving
  · have sooner := first.sooner
    have sooner' := second.sooner
    omega
  · exact (first.aside.trans second.aside).mono (by decide)
  · rintro ⟨calm, calm'⟩
    obtain ⟨aside, told⟩ := first.quietly calm
    obtain ⟨aside', told'⟩ := second.quietly calm'
    refine ⟨(aside.trans aside').mono (by decide), ?_⟩
    cases finished : s'.isFinished with
    | true =>
      rw [second.rests finished]
      exact told
    | false =>
      have unfinished : s.isFinished = false := by
        cases before : s.isFinished with
        | false => rfl
        | true => rw [first.rests before, before] at finished; cases finished
      rw [told', told]
      simp [finished, unfinished]
  · intro finished
    have same := first.rests finished
    rw [same] at second
    exact second.rests finished

end Script.Left

namespace Engine

variable [Client σ] {e : Engine σ} {i : Nat} {s : Script}

theorem left_moved (found : e.scripts[i]? = some s) (leaving : s.Leaving) (m : Move σ)
    (world : World σ) : ∃ s', (e.moved m).scripts[i]? = some s' ∧
      s.Left world s' (if m.looks i then 1 else 0) (m.isStep i → m.looks i) := by
  rcases m.step_or i with ⟨wake, rfl⟩ | other
  · have looks : Move.looks i (.step i wake : Move σ) = (wake == .message) := by simp [Move.looks]
    rw [looks]
    cases stepped : Run.step? e.table wake ⟨s, e.world⟩ with
    | none =>
      refine ⟨s, by rw [moved_stuck found stepped]; exact found, ?_⟩
      refine { Script.Left.refl world leaving with sooner := ?_ }
      split
      · next heard =>
        cases eq_of_beq heard
        have nothing : s.remaining = 0 :=
          Script.remaining_eq_zero.mpr (Run.looks_of_leaving e.table leaving stepped)
        omega
      · exact Nat.le_refl _
    | some r =>
      have departs := Run.step_departs leaving stepped
      have unfinished : s.isFinished = false := by
        cases finished : s.isFinished with
        | false => rfl
        | true => cases (Run.step_finished (r := ⟨s, e.world⟩) finished).symm.trans stepped
      have around : ∀ {parts : List Part}, Run.Keeps (.stream :: parts) ⟨s, e.world⟩ r →
          Run.Keeps parts ⟨s, world⟩ ⟨r.script, world⟩ := by
        intro parts kept p outside
        by_cases streaming : p = .stream
        · subst streaming
          rfl
        · exact kept.around world p (by simp_all)
      refine ⟨r.script, script_step found stepped, departs.leaving, ?_, ?_, ?_, ?_⟩
      · have near := departs.near
        have sooner := departs.sooner
        simp only at near sooner
        split
        · next heard =>
          have nearer := sooner (eq_of_beq heard)
          omega
        · omega
      · exact around (departs.aside.mono (by decide))
      · intro quiet
        obtain ⟨kept, told⟩ := departs.quiet (eq_of_beq (quiet (Move.isStep_iff.mpr ⟨wake, rfl⟩)))
        refine ⟨around (kept.mono (by decide)), ?_⟩
        rw [told]
        simp [unfinished]
      · intro finished
        rw [unfinished] at finished
        cases finished
  · have same := script_act found other
    rw [leaving.act] at same
    rw [Move.not_looks other]
    exact ⟨s, same, .refl world leaving⟩

theorem left_after (found : e.scripts[i]? = some s) (leaving : s.Leaving) (moves : List (Move σ))
    (world : World σ) : ∃ s', (e.after moves).scripts[i]? = some s' ∧
      s.Left world s' (moves.countP (Move.looks i)) (∀ m ∈ moves, m.isStep i → m.looks i) := by
  induction moves generalizing e s with
  | nil => exact ⟨s, found, .refl world leaving⟩
  | cons m rest ih =>
    obtain ⟨s₁, found₁, first⟩ := left_moved found leaving m world
    obtain ⟨s₂, found₂, second⟩ := ih found₁ first.leaving
    refine ⟨s₂, found₂, ?_⟩
    rw [List.countP_cons, Nat.add_comm]
    simp only [List.forall_mem_cons]
    exact first.trans second

/-- The steps of a script that leaves touch neither the client nor the global variables. -/
theorem world_of_leaving (found : e.scripts[i]? = some s) (leaving : s.Leaving) (wake : Wake) :
    (e.moved (.step i wake)).world.client = e.world.client ∧
      (e.moved (.step i wake)).world.globals = e.world.globals := by
  cases stepped : Run.step? e.table wake ⟨s, e.world⟩ with
  | none =>
    rw [moved_stuck found stepped]
    exact ⟨rfl, rfl⟩
  | some r =>
    have departs := Run.step_departs leaving stepped
    rw [moved_step found stepped]
    exact ⟨departs.aside .client (by decide), departs.aside .globals (by decide)⟩

theorem throughout_of_leaving {p : Engine σ → Prop}
    (holds : ∀ (e : Engine σ) (s : Script), e.scripts[i]? = some s → s.Leaving → p e)
    (found : e.scripts[i]? = some s) (leaving : s.Leaving) (moves : List (Move σ)) :
    e.Throughout p moves := by
  induction moves generalizing e s with
  | nil => exact holds e s found leaving
  | cons m rest ih =>
    obtain ⟨s', found', left⟩ := left_moved found leaving m e.world
    exact ⟨holds e s found leaving, ih found' left.leaving⟩

/-- A subscription that a script which leaves once held is open only as long as the script holds
it. -/
theorem held_after (accounted : e.Accounted) (found : e.scripts[i]? = some s) (leaving : s.Leaving)
    {id : Nat} (past : id < e.world.stream.nextId)
    (held : id ∈ e.world.stream.ids → id ∈ s.subscriptions) (moves : List (Move σ)) {s' : Script}
    (found' : (e.after moves).scripts[i]? = some s')
    (opened : id ∈ (e.after moves).world.stream.ids) : id ∈ s'.subscriptions := by
  induction moves generalizing e s with
  | nil =>
    cases found.symm.trans found'
    exact held opened
  | cons m rest ih =>
    obtain ⟨s₁, found₁, left⟩ := left_moved found leaving m e.world
    have follows := moved_follows e m
    have accounted₁ := accounted.moved m
    refine ih accounted₁ found₁ left.leaving (Nat.lt_of_lt_of_le past follows.later) ?_ found'
      opened
    intro open₁
    have mine := held (follows.kept id past open₁).1
    rcases m.step_or i with ⟨wake, rfl⟩ | other
    · -- what the other scripts hold is the same as before, and this one was not among it
      have before := (accounted_iff found).mp accounted
      have after := (accounted_iff found₁).mp accounted₁
      have others : (e.moved (.step i wake)).apart i = e.apart i := by
        cases stepped : Run.step? e.table wake ⟨s, e.world⟩ with
        | none => rw [moved_stuck found stepped]
        | some r =>
          rw [moved_step found stepped]
          simp only [apart, List.eraseIdx_set_eq]
      rw [others] at after
      rcases List.mem_append.mp (after.exact.mem_iff.mp open₁) with here | elsewhere
      · exact here
      · exact absurd rfl ((List.nodup_append.mp before.distinct).2.2 id mine id elsewhere)
    · have same := script_act found other
      rw [leaving.act, found₁] at same
      cases same
      exact mine

theorem leaving_of_stop (reachable : e.Reachable) {w : Wait} (found : e.scripts[i]? = some s)
    (waits : s.phase = .waiting w)
    (fit : s.isActive ∨ .stop ∈ s.controls ∨ e.table.StopsAtOnce) : s.stop.Leaving := by
  unfold Script.stop
  split
  · next stopped =>
    have stopped : s.state = .stopped := beq_iff_eq.mp stopped
    refine ⟨stopped, by simp [waits], fun w' waits' => ?_⟩
    rcases fit with active | told | fit
    · rw [Script.isActive, stopped] at active
      cases active
    · exact told
    · exact reachable.told fit found w' waits' stopped
  · refine ⟨rfl, by simp [waits], fun _ _ => ?_⟩
    exact List.mem_append_right _ (List.mem_singleton_self _)

theorem remaining_of_stop {w : Wait} (waits : s.phase = .waiting w) :
    s.stop.remaining ≤ s.controls.length + 4 := by
  unfold Script.stop
  split
  · simp only [Script.remaining, waits]
    omega
  · simp [Script.remaining, waits]

/-- Stopping a script ends any wait, provided that the script has not stopped itself before without
being told so. Whatever it waits for and attends to, it executes no further line, and its steps
leave the client and the global variables as they are. It comes to its end once it has looked at its
messages, its subscriptions are closed then, and nothing reaches it any more. If it looks at its
messages before anything else, all that it has done and stored stays as it is, and all it announces
is that it has stopped. -/
theorem stop_ends_wait (reachable : e.Reachable) {w : Wait} (found : e.scripts[i]? = some s)
    (waits : s.phase = .waiting w)
    (fit : s.isActive ∨ .stop ∈ s.controls ∨ e.table.StopsAtOnce) (later : List (Move σ)) :
    let e₁ := e.moved (.stop i)
    let e₂ := e₁.after later
    along (dispatches i) e₁ later = [] ∧
    e₁.Throughout (fun e => ∀ wake, (e.moved (.step i wake)).world.client = e.world.client ∧
      (e.moved (.step i wake)).world.globals = e.world.globals) later ∧
    ∃ s', e₂.scripts[i]? = some s' ∧ s'.state = .stopped ∧
      Run.Keeps [.position, .state, .watch, .events, .locals, .log, .next] ⟨s, e.world⟩
        ⟨s', e.world⟩ ∧
      ((∀ m ∈ later, m.isStep i → m.looks i) →
        Run.Keeps [.position, .state, .watch, .events] ⟨s, e.world⟩ ⟨s', e.world⟩ ∧
          s'.events = s.events ++ if s'.isFinished then [ScriptEvent.stopped] else []) ∧
      (s.controls.length + 4 ≤ later.countP (Move.looks i) → s'.isFinished) ∧
      (s'.isFinished → s'.isWaitingOpenly = false ∧ s'.subscriptions = [] ∧
        (∀ id ∈ s.subscriptions, id ∉ e₂.world.stream.ids) ∧
        ∀ more, (e₂.after more).scripts[i]? = some s') := by
  intro e₁ e₂
  have leaving := leaving_of_stop reachable found waits fit
  have found₁ : e₁.scripts[i]? = some s.stop := script_own found _
  have reachable₁ : e₁.Reachable := reachable.move _
  obtain ⟨s', found', left⟩ := left_after found₁ leaving later e.world
  obtain ⟨kept, phase⟩ := Script.Handled.stop.keeps (s := s) e.world
  have events : s.stop.events = s.events := kept .events (by decide)
  have unfinished : s.stop.isFinished = false := by simp [Script.isFinished, phase, waits]
  refine ⟨?_, ?_, s', found', left.leaving.stopped, ?_, ?_, ?_, ?_⟩
  · refine (silent_after Script.Leaving (fun _ => True) ?_ ?_ ?_ found₁ leaving
      fun _ _ => trivial).1
    · exact fun leaving => Run.dispatches_idle (by simp [leaving.stopped])
    · exact fun stepped leaving => (Run.step_departs leaving stepped).leaving
    · exact fun _ leaving => by rw [leaving.act]; exact leaving
  · exact throughout_of_leaving (fun _ _ => world_of_leaving) found₁ leaving later
  · exact (kept.trans left.aside).mono (by decide)
  · intro quiet
    obtain ⟨aside, told⟩ := left.quietly quiet
    refine ⟨(kept.trans aside).mono (by decide), ?_⟩
    rw [told, events]
    simp [unfinished]
  · intro enough
    have bound := remaining_of_stop waits
    have sooner := left.sooner
    exact Script.remaining_eq_zero.mp (by omega)
  · intro finished
    have none := (reachable₁.after later).subscriptions_of_finished
      (List.mem_of_getElem? found') finished
    refine ⟨?_, none, fun id member opened => ?_, fun more => ?_⟩
    · unfold Script.isWaitingOpenly
      unfold Script.isFinished at finished
      split at finished
      · next last => simp only [last]
      · cases finished
    · have held := (accounted_iff found₁).mp reachable₁.accounted
      have watch : s.stop.watch = s.watch := kept .watch (by decide)
      have mine : id ∈ s.stop.subscriptions := by
        simpa only [Script.subscriptions, Script.listening, watch, phase] using member
      have past := held.past id (List.mem_append_left _ mine)
      have still := held_after reachable₁.accounted found₁ leaving past (fun _ => mine) later found'
        opened
      rw [none] at still
      cases still
    · obtain ⟨s'', found'', left'⟩ := left_after found' left.leaving more e.world
      rw [left'.rests finished] at found''
      exact found''

/-- A script that waits for a line, with a match registered, and has a jump and a resumption to look
at. -/
def beset : Engine MemoryClient :=
  (plain {}).after
    [.start "beset" "match here apple\nwaitfor pear\nhere:\necho x" [], .step 0 .message,
      .step 0 .message, .step 0 .message, .goto 0 "here", .suspend 0, .resume 0]

def clamour : List (Move MemoryClient) :=
  [Move.publish (.line "pear"), .resume 0, .goto 0 "here"] ++
    List.replicate 6 (Move.step 0 .message)

theorem stop_ends_wait_beset : ∃ s s' : Script, beset.scripts[0]? = some s ∧
    s.controls = [.goto "here", .resume] ∧ s.subscriptions = [0, 1] ∧
    ((beset.moved (.stop 0)).after clamour).scripts[0]? = some s' ∧ s'.isFinished ∧
    s'.events = s.events ++ [ScriptEvent.stopped] ∧ s'.subscriptions = [] := by
  have reachable : beset.Reachable := by
    unfold beset
    exact (plain_reachable _).after _
  have facts : (beset.scripts[0]?).map (fun s : Script =>
      (s.isActive, s.listening, s.controls, s.subscriptions)) =
      some (true, some 1, [.goto "here", .resume], [0, 1]) := by
    decide +kernel
  obtain ⟨s, found, same⟩ := Option.map_eq_some_iff.mp facts
  obtain ⟨active, same⟩ := Prod.mk.inj same
  obtain ⟨hears, same⟩ := Prod.mk.inj same
  obtain ⟨controls, subscriptions⟩ := Prod.mk.inj same
  obtain ⟨w, waits, _⟩ := Script.waits_of_listening hears
  obtain ⟨_, _, s', found', _, _, quietly, enough, ended⟩ :=
    stop_ends_wait reachable found waits (.inl active) clamour
  have finished : s'.isFinished := enough (by rw [controls]; decide)
  have events := (quietly (by decide)).2
  rw [if_pos finished] at events
  exact ⟨s, s', found, controls, subscriptions, found', finished, events, (ended finished).2.1⟩

/-- A command that stops its script and then goes on with its arguments. -/
def sulk : Handler := fun _ => ([.stop], .execute)

def sulky : Engine MemoryClient :=
  { plain {} with table := CommandTable.standard.register "sulk" sulk }

def sulking : Engine MemoryClient :=
  sulky.after [.start "sulking" "sulk waitfor pear" [], .step 0 .message, .step 0 .message]

/-- A script that has stopped itself and then waits is not told to stop, so the wait goes on. -/
theorem stop_unheard :
    Engine.create {} [("sulk", sulk)] { client := ({} : MemoryClient) } = .ok sulky ∧
    ∃ s : Script, sulking.scripts[0]? = some s ∧ s.isWaitingOpenly ∧
      (sulking.moved (.stop 0)).scripts[0]? = some s ∧
      ∀ wake, (sulking.moved (.stop 0)).stepAt? 0 wake = none := by
  have facts : (sulking.scripts[0]?).map (fun s : Script => (s.isWaitingOpenly, s.state)) =
      some (true, .stopped) ∧
      ∀ wake ∈ wakes, ((sulking.moved (.stop 0)).stepAt? 0 wake).isNone := by
    decide +kernel
  obtain ⟨first, stuck⟩ := facts
  obtain ⟨s, found, same⟩ := Option.map_eq_some_iff.mp first
  obtain ⟨waits, stopped⟩ := Prod.mk.inj same
  have unchanged : s.stop = s := by simp [Script.stop, stopped]
  refine ⟨rfl, s, found, waits, ?_, fun wake => ?_⟩
  · exact (script_own found Script.stop).trans (congrArg some unchanged)
  · exact Option.isNone_iff_eq_none.mp (stuck wake (by cases wake <;> decide))

-- A hit that comes before the message to stop is looked at still has its effect: here it leads to a
-- label that is not there, which is announced.
example : ((plain ({} : MemoryClient)).after [.start "late" "match nowhere apple\nmatchwait" [],
    .step 0 .message, .step 0 .message, .step 0 .message, .stop 0, .publish (.line "apple"),
    .step 0 .event]).scripts.map (·.events.any (·.isFatal)) = [true] := by
  decide +kernel

end Engine

end Questline
