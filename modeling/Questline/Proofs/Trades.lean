import Questline.Proofs.Queues
import Questline.Proofs.Turns

/-! What commands and steps do about subscriptions: which ones they open, take over, take events
from and close, and what custom commands publish. -/
namespace Questline

def Outcome.subscription? : Outcome → Option Nat
  | waiting w => w.subscription?
  | _ => none

theorem Outcome.silent_of_isOver {outcome : Outcome} (isOver : outcome.isOver = true) :
    outcome.subscription? = none := by
  cases outcome with
  | waiting w => cases isOver
  | _ => rfl

def Builtin.registration? (arguments : String) : Builtin → Option PendingMatch
  | matchText =>
    (Arguments.labelAndText? arguments).map fun (label, text) => ⟨.text text, label⟩
  | matchPattern =>
    (Arguments.labelAndPattern? arguments).bind fun (label, pattern, flags) =>
      (Matcher.ofPattern pattern (Arguments.ignoresCase flags)).toOption.map (⟨·, label⟩)
  | _ => none

variable {σ : Type}

namespace Commands

inductive Trades (q : Run σ) (arguments : String) (command : Builtin) : Run σ × Outcome → Prop
  | nothing {q' : Run σ} {outcome : Outcome} (unregistered : command.registration? arguments = none)
      (watch : q'.script.watch = q.script.watch) (stream : q'.world.stream = q.world.stream)
      (silent : outcome.subscription? = none) : Trades q arguments command (q', outcome)
  | register {m : PendingMatch} (registered : command.registration? arguments = some m) :
      Trades q arguments command (q.register m, .done)
  /-- The wait takes over the matches and their subscription. -/
  | await {q' : Run σ} {id : Nat} {pending : List PendingMatch} {deadline : Option Nat}
      (unregistered : command.registration? arguments = none)
      (ready : q.script.watch.ready? = some (id, pending)) (watch : q'.script.watch = .empty)
      (stream : q'.world.stream = q.world.stream) :
      Trades q arguments command (q', .waiting (.hit id pending deadline))
  | clear {f : Fault} (unregistered : command.registration? arguments = none)
      (unready : q.script.watch.ready? = none) :
      Trades q arguments command (q.clearMatches, .fault f)
  | listen {q' : Run σ} {w : Wait} (unregistered : command.registration? arguments = none)
      (watch : q'.script.watch = q.script.watch)
      (stream : q'.world.stream = q.world.stream.subscribe.2)
      (listens : w.subscription? = some q.world.stream.nextId)
      (plain : ∀ id pending deadline, w ≠ .hit id pending deadline) :
      Trades q arguments command (q', .waiting w)
  | giveUp {q' : Run σ} {f : Fault} (unregistered : command.registration? arguments = none)
      (watch : q'.script.watch = q.script.watch)
      (stream : q'.world.stream = q.world.stream.subscribe.2.unsubscribe q.world.stream.nextId) :
      Trades q arguments command (q', .fault f)

variable (q : Run σ) (arguments : String)

theorem matchText_trades : Trades q arguments .matchText (matchText q arguments) := by
  unfold matchText
  split
  · next bad => exact .nothing (by simp [Builtin.registration?, bad]) rfl rfl rfl
  · next good => exact .register (by simp [Builtin.registration?, good])

theorem matchPattern_trades : Trades q arguments .matchPattern (matchPattern q arguments) := by
  unfold matchPattern
  split
  · next bad => exact .nothing (by simp [Builtin.registration?, bad]) rfl rfl rfl
  · next good =>
    split
    · next failed =>
      exact .nothing (by simp [Builtin.registration?, good, failed, Except.toOption]) rfl rfl rfl
    · next compiled =>
      exact .register (by simp [Builtin.registration?, good, compiled, Except.toOption])

theorem awaitMatch_trades (deadline : Option Nat) :
    Trades q arguments .matchWait (awaitMatch q deadline) := by
  unfold awaitMatch
  split
  · next ready => exact .await rfl ready rfl rfl
  · next unready => exact .clear rfl unready

theorem matchWait_trades : Trades q arguments .matchWait (matchWait q arguments) := by
  unfold matchWait
  simp only
  split
  · exact awaitMatch_trades q arguments _
  · split
    · exact .nothing rfl rfl rfl rfl
    · exact awaitMatch_trades q arguments _

theorem waitForEvent_trades {command : Builtin} (event : GameEvent)
    (unregistered : command.registration? arguments = none) :
    Trades q arguments command (waitForEvent q event) :=
  .listen unregistered rfl rfl rfl nofun

theorem waitFor_trades : Trades q arguments .waitFor (waitFor q arguments) := by
  unfold waitFor
  simp only
  split
  · exact .nothing rfl rfl rfl rfl
  · exact .listen rfl (Run.trace_keeps _ _ _ .watch (by decide))
      (Run.trace_keeps _ _ _ .stream (by decide)) rfl nofun

theorem waitForPattern_trades :
    Trades q arguments .waitForPattern (waitForPattern q arguments) := by
  unfold waitForPattern
  split
  · exact .nothing rfl rfl rfl rfl
  · split
    · exact .nothing rfl rfl rfl rfl
    · exact .listen rfl rfl rfl rfl nofun

variable [Client σ]

theorem move_trades : Trades q arguments .move (move q arguments) := by
  unfold move
  simp only
  split
  · exact .nothing rfl rfl rfl rfl
  · have sent := send_keeps q.subscribe.2 (Text.trim arguments)
    split
    · next q' answer =>
      rw [answer] at sent
      exact .listen rfl (sent .watch (by decide)) (sent .stream (by decide)) rfl nofun
    · next f q' answer =>
      rw [answer] at sent
      have stream : q'.world.stream = q.world.stream.subscribe.2 := sent .stream (by decide)
      refine .giveUp rfl (sent .watch (by decide)) ?_
      simp only [Run.unsubscribe, stream]
      rfl

theorem perform_trades (command : Builtin) :
    Trades q arguments command (perform q arguments command) := by
  have untouched : Part.watch ∉ command.touches → Part.stream ∉ command.touches →
      command.registration? arguments = none →
      (perform q arguments command).2.subscription? = none →
      Trades q arguments command (perform q arguments command) :=
    fun watch stream unregistered silent => .nothing unregistered
      (perform_keeps q arguments command .watch watch)
      (perform_keeps q arguments command .stream stream) silent
  cases waits : command.waits with
  | false =>
    have isOver := perform_over q arguments command waits
    have silent : (perform q arguments command).2.subscription? = none :=
      Outcome.silent_of_isOver isOver
    cases command with
    | matchText => exact matchText_trades q arguments
    | matchPattern => exact matchPattern_trades q arguments
    | matchWait | move | nextRoom | pause | wait | waitFor | waitForPattern => cases waits
    | _ => exact untouched (by simp [Builtin.touches]) (by simp [Builtin.touches]) rfl silent
  | true =>
    cases command with
    | matchWait => exact matchWait_trades q arguments
    | move => exact move_trades q arguments
    | nextRoom => exact waitForEvent_trades q arguments _ rfl
    | wait => exact waitForEvent_trades q arguments _ rfl
    | waitFor => exact waitFor_trades q arguments
    | waitForPattern => exact waitForPattern_trades q arguments
    | pause =>
      refine untouched (by decide) (by decide) rfl ?_
      simp only [perform, pause]
      split
      · rfl
      · split <;> rfl
    | _ => cases waits

end Commands

/-! ### What custom commands publish -/

def Request.event? : Request → Option GameEvent
  | publish event => some event
  | _ => none

namespace Run

variable [Client σ]

def voiced (r : Run σ) : List Request → List GameEvent
  | [] => []
  | request :: rest =>
    match r.grant request with
    | .ok r => request.event?.toList ++ r.voiced rest
    | .error _ => []

def voicedBy (r : Run σ) (arguments : List Char) : Option Action → List GameEvent
  | some (.custom handler) => r.voiced (handler (String.ofList arguments)).1
  | _ => []

def voicedAt (table : CommandTable) (r : Run σ) (line : List Char) : List GameEvent :=
  match Arguments.splitLine? (Text.trimChars line) with
  | none => []
  | some (keyword, arguments) =>
    (r.trace 2 ("Debug: " ++ String.ofList (Text.trimChars line))).voicedBy arguments
      (table.get? (String.ofList keyword))

/-- The events that are published on the way from a line to a command. -/
def announced (table : CommandTable) (r : Run σ) (line : List Char) : List GameEvent :=
  match _led : r.way table line with
  | (_, .there _) => r.voicedAt table line
  | (q, .onward rest) => r.voicedAt table line ++ announced table q rest
termination_by line.length
decreasing_by exact length_lt_of_way _led

def publishes (table : CommandTable) (wake : Wake) (r : Run σ) : List GameEvent :=
  match r.turn? wake with
  | some (.execute q line) => q.announced table line.toList
  | _ => []

theorem grant_stream {r r' : Run σ} {request : Request} (granted : r.grant request = .ok r') :
    r'.world.stream = r.world.stream.publishAll request.event?.toList := by
  cases request with
  | publish event => cases granted; rfl
  | echo text => cases granted; rfl
  | trace level text => cases granted; exact trace_keeps r _ _ .stream (by decide)
  | goto label =>
    obtain ⟨_, _, _, kept⟩ := goto_ok granted
    exact kept .stream (by decide)
  | stop => cases granted; rfl
  | setSpecial name value => cases granted; exact setSpecial_keeps r _ _ .stream (by decide)
  | inspect names => cases granted; rfl

theorem grantAll_stream (r : Run σ) (requests : List Request) :
    (r.grantAll requests).1.world.stream = r.world.stream.publishAll (r.voiced requests) := by
  induction requests generalizing r with
  | nil => rfl
  | cons request rest ih =>
    unfold grantAll voiced
    cases granted : r.grant request with
    | error f => rfl
    | ok r' => rw [ih, grant_stream granted, Stream.publishAll_append]

theorem follow_stream (r : Run σ) (shown : String) (arguments : List Char)
    (action : Option Action) : (r.follow shown arguments action).1.world.stream =
      r.world.stream.publishAll (r.voicedBy arguments action) := by
  unfold follow
  split
  · rfl
  · rfl
  · rfl
  · rfl
  · next handler =>
    have given := grantAll_stream r (handler (String.ofList arguments)).1
    simp only
    split
    · next answer => rw [answer] at given; exact given
    · next answer => rw [answer] at given; exact given

theorem way_stream (table : CommandTable) (r : Run σ) (line : List Char) :
    (r.way table line).1.world.stream = r.world.stream.publishAll (r.voicedAt table line) := by
  unfold way voicedAt
  cases Arguments.splitLine? (Text.trimChars line) with
  | none => rfl
  | some pair =>
    have traced : ∀ text, (r.trace 2 text).world.stream = r.world.stream :=
      fun text => trace_keeps r 2 text .stream (by decide)
    simp only [follow_stream, traced]

/-- On the way to a command the stream changes by what is published and by nothing else. -/
theorem dispatch_stream (table : CommandTable) (r : Run σ) (line : List Char) :
    (r.dispatch table line).1.world.stream =
      r.world.stream.publishAll (r.announced table line) := by
  fun_induction announced table r line with
  | case1 r line q destination led =>
    have here := way_stream table r line
    rw [led] at here
    rw [dispatch, led]
    exact here
  | case2 r line q rest led ih =>
    have here := way_stream table r line
    rw [led] at here
    rw [dispatch, led, Stream.publishAll_append, ← here]
    exact ih

end Run

/-! ### What a step does about subscriptions -/

/-- The subscriptions that a script holds: the one for registered matches and the one it listens
to. -/
def Script.subscriptions (s : Script) : List Nat :=
  s.watch.subscription.toList ++ s.listening.toList

namespace Run

/-- What a step that executes no line can do about subscriptions. -/
inductive Sheds (r r' : Run σ) : Prop
  | nothing (stream : r'.world.stream = r.world.stream) (watch : r'.script.watch = r.script.watch)
      (listening : r'.script.listening = r.script.listening)
  | take {id : Nat} {rest : List GameEvent} (listens : r.script.listening = some id)
      (stream : r'.world.stream = r.world.stream.setQueue id rest)
      (watch : r'.script.watch = r.script.watch)
      (listening : r'.script.listening = r.script.listening)
  | release {id : Nat} {stream : Stream} (listens : r.script.listening = some id)
      (before : stream = r.world.stream ∨ ∃ rest, stream = r.world.stream.setQueue id rest)
      (stream : r'.world.stream = stream.unsubscribe id)
      (watch : r'.script.watch = r.script.watch) (deaf : r'.script.listening = none)
  | clear (silent : r.script.listening = none)
      (stream : r'.world.stream = (r.script.watch.clear r.world.stream).2)
      (watch : r'.script.watch = .empty) (deaf : r'.script.listening = none)

theorem handleFault_listening (r : Run σ) (f : Fault) :
    (r.handleFault f).script.listening = none := by
  unfold handleFault
  simp only
  split <;> rfl

theorem release_stream {w : Wait} {id : Nat} (listens : w.subscription? = some id) (r : Run σ) :
    (r.release w).world.stream = r.world.stream.unsubscribe id := by
  simp only [release, listens]
  rfl

theorem release_silent {w : Wait} (silent : w.subscription? = none) (r : Run σ) :
    r.release w = r := by
  simp only [release, silent]

theorem leave_sheds {r r' : Run σ} {w : Wait} (waits : r.script.phase = .waiting w)
    (stream : r'.world.stream = (r.release w).world.stream)
    (watch : r'.script.watch = r.script.watch) (deaf : r'.script.listening = none) :
    Sheds r r' := by
  have listening : r.script.listening = w.subscription? := by simp only [Script.listening, waits]
  cases listens : w.subscription? with
  | none =>
    rw [release_silent listens] at stream
    exact .nothing stream watch (deaf.trans (listening.trans listens).symm)
  | some id =>
    rw [release_stream listens] at stream
    exact .release (listening.trans listens) (.inl rfl) stream watch deaf

theorem conclude_over {q : Run σ} {outcome : Outcome} (isOver : outcome.isOver = true) :
    Keeps [.position, .events, .log] q (conclude (q, outcome)) ∧
      (conclude (q, outcome)).script.listening = none := by
  cases outcome with
  | done => exact ⟨(moveOn_keeps q).mono (by decide), rfl⟩
  | fault f => exact ⟨handleFault_keeps q f, handleFault_listening q f⟩
  | _ => cases isOver

theorem meet_sheds {r : Run σ} {w : Wait} {id : Nat} {event : GameEvent} {stream : Stream}
    {result : Run σ × Outcome} (waits : r.script.phase = .waiting w)
    (listens : w.subscription? = some id) (taken : r.world.stream.take? id = some (event, stream))
    (met : (r.withStream stream).meet w event = some result) : Sheds r (conclude result) := by
  obtain ⟨rest, _, rfl⟩ := Stream.take_some taken
  obtain ⟨done, isOver⟩ := meet_some met
  obtain ⟨concluded, deaf⟩ := conclude_over (q := result.1) isOver
  have released := release_stream listens (r.withStream (r.world.stream.setQueue id rest))
  have hears : r.script.listening = some id := by simp only [Script.listening, waits, listens]
  have stream : (conclude result).world.stream =
      ((r.withStream (r.world.stream.setQueue id rest)).release w).world.stream :=
    (done.trans concluded) .stream (by decide)
  have watch := ((withStream_keeps r (r.world.stream.setQueue id rest)).trans
    (release_keeps _ w)).trans (done.trans concluded)
  exact .release hears (.inr ⟨rest, rfl⟩) (stream.trans released) (watch .watch (by decide)) deaf

variable [Client σ] {wake : Wake}

theorem ended_sheds {r r' : Run σ} (turn : r.turn? wake = some (.ended r')) : Sheds r r' := by
  have kept : ∀ {parts : List Part} {q : Run σ}, Keeps parts r q → Part.stream ∉ parts →
      Part.watch ∉ parts → q.script.listening = r.script.listening → Sheds r q :=
    fun keeps stream watch listening =>
      .nothing (keeps .stream stream) (keeps .watch watch) listening
  cases turn_takes turn with
  | launch fresh =>
    exact kept (launch_keeps r) (by decide) (by decide) (by simp only [Script.listening, fresh]; rfl)
  | finish ready aside =>
    exact kept (aside.trans (finish_keeps _)) (by decide) (by decide)
      (by simp only [Script.listening, ready]; rfl)
  | reject ready aside _ =>
    exact kept ((aside.trans (report_keeps _ _)).trans (finish_keeps _)) (by decide) (by decide)
      (by simp only [Script.listening, ready]; rfl)
  | stay _ aside phase =>
    exact kept aside (by decide) (by decide) (by simp only [Script.listening, phase])
  | comeUp _ silent aside phase comes =>
    cases comes with
    | @wait w quiet =>
      exact kept (aside.trans (setPhase_keeps _ _)) (by decide) (by decide)
        ((show _ = w.subscription? from rfl).trans (quiet.trans silent.symm))
    | pass =>
      exact kept (aside.trans (moveOn_keeps _)) (by decide) (by decide) silent.symm
  | @leave q w waits aside =>
    refine leave_sheds waits ?_ ?_ rfl
    · cases listens : w.subscription? with
      | none =>
        rw [release_silent listens, release_silent listens]
        exact aside .stream (by decide)
      | some id =>
        rw [release_stream listens r, ← aside .stream (by decide)]
        exact release_stream listens q
    · exact (aside .watch (by decide)).trans (release_keeps q w .watch (by decide))
  | lapse waits =>
    exact leave_sheds waits (trace_keeps _ _ _ .stream (by decide))
      (((release_keeps r _).trans (trace_keeps _ _ _)) .watch (by decide)) rfl
  | @passOver w id _ stream waits listens taken _ =>
    obtain ⟨rest, _, rfl⟩ := Stream.take_some taken
    have hears : r.script.listening = some id := by simp only [Script.listening, waits, listens]
    exact .take hears rfl rfl rfl
  | meet waits listens taken met => exact meet_sheds waits listens taken met
  | shutDown ending =>
    exact .clear (by simp only [Script.listening, ending]) rfl rfl rfl
  | sayGoodbye stopped =>
    exact kept ((emit_keeps r _).trans (setPhase_keeps _ _)) (by decide) (by decide)
      (by simp only [Script.listening, stopped]; rfl)

end Run

end Questline
