import Questline.MemoryClient
import Questline.Proofs.Subscriptions

/-! Waiting for a match. The matches that a script registers, and later the wait for them, keep one
subscription, from the first registration to the end of the wait. What is queued for it is what has
been published since then and has not been looked at, so the wait finds the earliest line there is
to find. -/
namespace Questline

def Wait.awaiting? : Wait → Option (Nat × List PendingMatch)
  | hit id pending _ => some (id, pending)
  | _ => none

def Outcome.awaiting? : Outcome → Option (Nat × List PendingMatch)
  | waiting w => w.awaiting?
  | _ => none

def Script.awaiting? (s : Script) : Option (Nat × List PendingMatch) :=
  match s.phase with
  | .waiting w => w.awaiting?
  | _ => none

theorem Wait.awaiting_of_silent {w : Wait} (silent : w.subscription? = none) :
    w.awaiting? = none := by
  cases w with
  | hit id pending deadline => cases silent
  | _ => rfl

theorem Outcome.awaiting_of_silent {outcome : Outcome} (silent : outcome.subscription? = none) :
    outcome.awaiting? = none := by
  cases outcome with
  | waiting w => exact Wait.awaiting_of_silent silent
  | _ => rfl

theorem Script.awaiting_of_deaf {s : Script} (deaf : s.listening = none) : s.awaiting? = none := by
  unfold listening at deaf
  unfold awaiting?
  split
  · next w waits =>
    rw [waits] at deaf
    exact Wait.awaiting_of_silent deaf
  · rfl

theorem Script.waits_of_awaiting {s : Script} {id : Nat} {pending : List PendingMatch}
    (awaits : s.awaiting? = some (id, pending)) :
    ∃ deadline, s.phase = .waiting (.hit id pending deadline) := by
  unfold awaiting? at awaits
  split at awaits
  · next w waits =>
    cases w with
    | hit _ _ deadline =>
      cases awaits
      exact ⟨deadline, waits⟩
    | _ => cases awaits
  · cases awaits

theorem Script.listening_of_awaiting {s : Script} {id : Nat} {pending : List PendingMatch}
    (awaits : s.awaiting? = some (id, pending)) : s.listening = some id := by
  obtain ⟨_, waits⟩ := waits_of_awaiting awaits
  simp only [listening, waits, Wait.subscription?]

/-- There is a subscription for registered matches as long as there are any, and none of them is
left while a script waits for a match. -/
structure Script.Orderly (s : Script) : Prop where
  paired : s.watch.pending = [] ↔ s.watch.subscription = none
  taken : s.awaiting?.isSome → s.watch = .empty

/-! ### What there is to find -/

/-- The earliest line among some events that one of the matchers finds, and of the matchers that
find it the first one, make a hit: the label of the matcher, and the groups if it is a pattern. -/
def IsEarliestHit (pending : List PendingMatch) (events : List GameEvent) (hit : Hit) : Prop :=
  ∃ (before : List GameEvent) (text : String) (after : List GameEvent),
    events = before ++ .line text :: after ∧
    (∀ earlier, .line earlier ∈ before → ∀ m ∈ pending, m.matcher.find? earlier = none) ∧
    ∃ (first : List PendingMatch) (m : PendingMatch) (rest : List PendingMatch)
      (groups : List String), pending = first ++ m :: rest ∧
      (∀ other ∈ first, other.matcher.find? text = none) ∧ m.matcher.find? text = some groups ∧
      hit = { label := m.label, groups := if m.matcher.isPattern then some groups else none }

theorem hit_none {m : PendingMatch} {text : String} :
    m.hit? text = none ↔ m.matcher.find? text = none := by
  simp only [PendingMatch.hit?, Option.map_eq_none_iff]

theorem firstHit_none {pending : List PendingMatch} {text : String} :
    firstHit? pending text = none ↔ ∀ m ∈ pending, m.matcher.find? text = none := by
  simp only [firstHit?, List.findSome?_eq_none_iff, hit_none]

theorem isEarliestHit_of_firstHit {pending : List PendingMatch} {before after : List GameEvent}
    {text : String} {hit : Hit} (found : firstHit? pending text = some hit)
    (nothing : ∀ earlier, .line earlier ∈ before → firstHit? pending earlier = none) :
    IsEarliestHit pending (before ++ .line text :: after) hit := by
  refine ⟨before, text, after, rfl, ?_, ?_⟩
  · intro earlier among
    exact firstHit_none.mp (nothing earlier among)
  obtain ⟨first, m, rest, split, here, absent⟩ := List.findSome?_eq_some_iff.mp found
  obtain ⟨groups, finds, made⟩ := Option.map_eq_some_iff.mp here
  exact ⟨first, m, rest, groups, split, fun other among => hit_none.mp (absent other among), finds,
    made.symm⟩

variable {σ : Type} {wake : Wake}

namespace Run

theorem conclude_awaiting (q : Run σ) (outcome : Outcome) :
    (conclude (q, outcome)).script.awaiting? = outcome.awaiting? := by
  cases outcome with
  | fault f =>
    simp only [conclude, handleFault]
    split <;> rfl
  | _ => rfl

theorem conclude_watch (q : Run σ) (outcome : Outcome) :
    (conclude (q, outcome)).script.watch = q.script.watch ∨
      (conclude (q, outcome)).script.watch = .empty ∧ outcome.awaiting? = none := by
  cases outcome with
  | crashed => exact .inr ⟨rfl, rfl⟩
  | fault f => exact .inl (handleFault_keeps q f .watch (by decide))
  | _ => exact .inl rfl

theorem meet_awaiting {r : Run σ} {w : Wait} {event : GameEvent} {result : Run σ × Outcome}
    (met : r.meet w event = some result) : (conclude result).script.awaiting? = none :=
  (conclude_awaiting result.1 result.2).trans
    (Outcome.awaiting_of_silent (Outcome.silent_of_isOver (meet_some met).2))

/-- What a script does once its wait for a match is over. With a hit the groups become locals and
the script goes to the label; without one it just goes on. -/
def settle (q : Run σ) : Option Hit → Run σ
  | some hit =>
    let q := hit.groups.elim q q.bindGroups
    conclude (Commands.attempt q (q.goto hit.label))
  | none => (q.trace 1 "matchwait timed out").moveOn

variable [Client σ]

theorem step_settles {table : CommandTable} {r r' : Run σ} {id : Nat} {pending : List PendingMatch}
    {deadline : Option Nat} (waits : r.script.phase = .waiting (.hit id pending deadline))
    (uninterrupted : wake ≠ .message) (stepped : r.step? table wake = some r')
    (ended : r'.script.awaiting? = none) :
    ∃ outcome q, Keeps [.stream] r q ∧ r' = q.settle outcome ∧
      match outcome with
      | some hit => ∃ text rest, r.world.stream.queued id = .line text :: rest ∧
          firstHit? pending text = some hit
      | none => r.isDue deadline := by
  simp only [step?, turn?, waits] at stepped
  cases wake with
  | message => cases uninterrupted rfl
  | event =>
    obtain ⟨_, turn, rfl⟩ := Option.map_eq_some_iff.mp stepped
    obtain ⟨_, event, stream, listens, taken, rfl⟩ := wake_event turn
    cases listens
    obtain ⟨rest, queue, _⟩ := Stream.take_some taken
    cases event with
    | line text =>
      cases hits : firstHit? pending text with
      | none =>
        -- the script would go on waiting
        simp [meet, hits, Turn.complete, withStream, Script.awaiting?, waits,
          Wait.awaiting?] at ended
      | some hit =>
        have aside := (withStream_keeps r stream).trans
          (release_keeps _ (.hit id pending deadline))
        refine ⟨some hit, _, aside.mono (by decide), ?_, text, rest, queue, hits⟩
        simp only [meet, hits, Option.map_some, Option.elim_some]
        rfl
    | _ => simp [meet, Turn.complete, withStream, Script.awaiting?, waits, Wait.awaiting?] at ended
  | deadline =>
    simp only [wake?] at stepped
    split at stepped
    · next due =>
      cases stepped
      exact ⟨none, _, release_keeps r (.hit id pending deadline), rfl, due⟩
    · cases stepped

/-- The match that the next step of a script registers. -/
def registers? (table : CommandTable) (wake : Wake) (r : Run σ) : Option PendingMatch :=
  (r.leadsTo? table wake).bind fun (_, command, arguments) => command.registration? arguments

theorem ended_awaiting {r r' : Run σ} (turn : r.turn? wake = some (.ended r')) :
    r'.script.awaiting? = none ∨ r'.script.awaiting? = r.script.awaiting? := by
  cases turn_takes turn with
  | stay _ _ phase => exact .inr (by simp only [Script.awaiting?, phase])
  | comeUp _ _ _ _ comes =>
    cases comes with
    | wait quiet => exact .inl (Wait.awaiting_of_silent quiet)
    | pass => exact .inl rfl
  | passOver => exact .inr rfl
  | @meet w id event stream result _ _ _ met =>
    exact .inl (meet_awaiting met)
  | _ => exact .inl rfl

inductive Collects (table : CommandTable) (wake : Wake) (r r' : Run σ) : Prop
  | register {m : PendingMatch} (registered : r.registers? table wake = some m)
      (collected : r.script.watch.register (r.world.stream.publishAll (r.publishes table wake)) m =
        (r'.script.watch, r'.world.stream)) (idle : r'.script.awaiting? = none)
  | nothing (unregistered : r.registers? table wake = none)
      (watch : r'.script.watch = r.script.watch)
      (awaits : r'.script.awaiting? = none ∨ r'.script.awaiting? = r.script.awaiting?)
  | await {id : Nat} {pending : List PendingMatch} (unregistered : r.registers? table wake = none)
      (ready : r.script.watch.ready? = some (id, pending)) (watch : r'.script.watch = .empty)
      (awaits : r'.script.awaiting? = some (id, pending))
  | clear (unregistered : r.registers? table wake = none) (watch : r'.script.watch = .empty)
      (idle : r'.script.awaiting? = none)

theorem perform_collects {table : CommandTable} {r q : Run σ} {command : Builtin}
    {arguments : String} (led : r.leadsTo? table wake = some (q, command, arguments)) :
    Collects table wake r (conclude (Commands.perform q arguments command)) := by
  obtain ⟨q₀, line, turn, way⟩ := leadsTo_some led
  obtain ⟨silent, watch, stream⟩ := way_of_turn table turn
  rw [way] at watch stream
  have registers : r.registers? table wake = command.registration? arguments := by
    simp only [registers?, led, Option.bind_some]
  have trades := Commands.perform_trades q arguments command
  generalize Commands.perform q arguments command = result at trades
  have settled : ∀ {q' : Run σ} {outcome : Outcome}, command.registration? arguments = none →
      q'.script.watch = q.script.watch → outcome.awaiting? = none →
      Collects table wake r (conclude (q', outcome)) := by
    intro q' outcome unregistered same idle
    have settles := (conclude_awaiting q' outcome).trans idle
    rcases conclude_watch q' outcome with kept | ⟨empty, _⟩
    · exact .nothing (registers.trans unregistered) (kept.trans (same.trans watch)) (.inl settles)
    · exact .clear (registers.trans unregistered) empty settles
  cases trades with
  | nothing unregistered same _ silent =>
    exact settled unregistered same (Outcome.awaiting_of_silent silent)
  | @register m registered =>
    refine .register (registers.trans registered) ?_ rfl
    rw [← watch, ← stream]
    rfl
  | await unregistered ready same _ =>
    rw [show q.script.watch = r.script.watch from watch] at ready
    exact .await (registers.trans unregistered) ready same rfl
  | @clear f unregistered _ =>
    refine .clear (registers.trans unregistered) ?_ (conclude_awaiting _ (.fault f))
    exact (handleFault_keeps q.clearMatches f) .watch (by decide)
  | @listen q' w unregistered same _ _ plain =>
    refine settled unregistered same ?_
    cases w with
    | hit id pending deadline => exact absurd rfl (plain id pending deadline)
    | _ => rfl
  | giveUp unregistered same _ => exact settled unregistered same rfl

theorem step_collects {table : CommandTable} {r r' : Run σ}
    (stepped : r.step? table wake = some r') :
    Collects table wake r r' := by
  rcases step_leads stepped with ⟨q, command, arguments, led, rfl⟩ | ⟨nowhere, turn | aside⟩
  · exact perform_collects led
  · have unregistered : r.registers? table wake = none := by
      simp only [registers?, nowhere, Option.bind_none]
    have awaits := ended_awaiting turn
    cases ended_sheds turn with
    | nothing _ watch => exact .nothing unregistered watch awaits
    | take _ _ watch => exact .nothing unregistered watch awaits
    | release _ _ _ watch => exact .nothing unregistered watch awaits
    | clear _ _ watch deaf => exact .clear unregistered watch (Script.awaiting_of_deaf deaf)
  · obtain ⟨q, line, q', outcome, turn, way, rfl⟩ := aside
    obtain ⟨silent, watch, _⟩ := way_of_turn table turn
    rw [way] at watch
    have unregistered : r.registers? table wake = none := by
      simp only [registers?, nowhere, Option.bind_none]
    have idle :=
      (conclude_awaiting q' outcome).trans (Outcome.awaiting_of_silent (nowhere_silent way))
    rcases conclude_watch q' outcome with same | ⟨empty, _⟩
    · exact .nothing unregistered (same.trans watch) (.inl idle)
    · exact .clear unregistered empty idle

theorem step_orderly {table : CommandTable} {r r' : Run σ} (stepped : r.step? table wake = some r')
    (orderly : r.script.Orderly) : r'.script.Orderly := by
  have empty : Watch.empty.pending = [] ↔ Watch.empty.subscription = none :=
    ⟨fun _ => rfl, fun _ => rfl⟩
  cases step_collects stepped with
  | register _ collected idle =>
    have watch := congrArg Prod.fst collected
    simp only at watch
    refine ⟨?_, by rw [idle]; nofun⟩
    rw [← watch]
    unfold Watch.register
    split
    · next opened => simp [opened]
    · simp
  | nothing _ watch awaits =>
    refine ⟨by rw [watch]; exact orderly.paired, fun some => ?_⟩
    rw [watch]
    rcases awaits with idle | same
    · rw [idle] at some
      cases some
    · exact orderly.taken (same ▸ some)
  | await _ _ watch _ => exact ⟨by rw [watch]; exact empty, fun _ => watch⟩
  | clear _ watch _ => exact ⟨by rw [watch]; exact empty, fun _ => watch⟩

/-- A script that goes on waiting for a match has received a message, or has passed over an event in
which there was nothing to find. -/
theorem step_awaiting {table : CommandTable} {r r' : Run σ} {id : Nat} {pending : List PendingMatch}
    {deadline : Option Nat} (waits : r.script.phase = .waiting (.hit id pending deadline))
    (stepped : r.step? table wake = some r') (still : r'.script.awaiting?.isSome) :
    r'.script.phase = r.script.phase ∧
      (wake ≠ .event ∧ r'.world.stream = r.world.stream ∨
        wake = .event ∧ ∃ event rest, r.world.stream.queued id = event :: rest ∧
          r'.world.stream = r.world.stream.setQueue id rest ∧
          ∀ text, event = .line text → firstHit? pending text = none) := by
  simp only [step?, turn?, waits] at stepped
  cases wake with
  | message =>
    simp only [wake?] at stepped
    split at stepped
    · next message rest _ =>
      cases stepped
      cases message with
      | resume => exact ⟨rfl, .inl ⟨by simp, rfl⟩⟩
      | stop => cases still
      | goto label => cases still
    · cases stepped
  | event =>
    obtain ⟨_, turn, rfl⟩ := Option.map_eq_some_iff.mp stepped
    obtain ⟨_, event, stream, listens, taken, rfl⟩ := wake_event turn
    cases listens
    obtain ⟨rest, queue, rfl⟩ := Stream.take_some taken
    cases met : (r.withStream (r.world.stream.setQueue id rest)).meet (.hit id pending deadline)
      event with
    | some result =>
      simp only [Turn.complete, met, Option.elim_some, meet_awaiting met] at still
      cases still
    | none =>
      rw [Option.elim_none]
      refine ⟨rfl, .inr ⟨rfl, event, rest, queue, rfl, fun text line => ?_⟩⟩
      subst line
      exact Option.map_eq_none_iff.mp met
  | deadline =>
    simp only [wake?] at stepped
    split at stepped
    · cases stepped
      cases still
    · cases stepped

end Run

/-! ### Observations along a run -/

namespace Engine

/-- The event that the script at an index takes from the subscription to which it listens. -/
def received (i : Nat) (e : Engine σ) : Move σ → List GameEvent
  | .step j .event =>
    if j = i then
      (((e.scripts[i]?).bind Script.listening).bind fun id =>
        (e.world.stream.queued id).head?).toList
    else []
  | _ => []

theorem received_of_step {e : Engine σ} {i id : Nat} {s : Script} (found : e.scripts[i]? = some s)
    (hears : s.listening = some id) :
    received i e (.step i wake) =
      if wake = .event then (e.world.stream.queued id).head?.toList else [] := by
  cases wake <;> simp [received, found, hears]

theorem received_of_other {e : Engine σ} {i : Nat} {m : Move σ} (other : m.isStep i = false) :
    received i e m = [] := by
  cases m with
  | step j wake =>
    have different : j ≠ i := by simpa [Move.isStep] using other
    cases wake <;> simp [received, different]
  | _ => rfl

variable [Client σ]

theorem Reachable.orderly {e : Engine σ} (reachable : e.Reachable) {i : Nat} {s : Script}
    (found : e.scripts[i]? = some s) : s.Orderly := by
  induction reachable generalizing i s with
  | create created =>
    rw [(create_ok created).2] at found
    cases found
  | @move e before m ih =>
    rcases script_moved found with ⟨s₀, was, fares⟩ | ⟨_, name, source, arguments, rfl⟩
    · have orderly := ih was
      cases fares with
      | aside handled =>
        obtain ⟨kept, phase⟩ := handled.keeps e.world
        have watch : s.watch = s₀.watch := kept .watch (by decide)
        have awaiting : s.awaiting? = s₀.awaiting? := by simp only [Script.awaiting?, phase]
        exact ⟨by rw [watch]; exact orderly.paired, by rw [watch, awaiting]; exact orderly.taken⟩
      | step _ stepped => exact Run.step_orderly stepped orderly
    · exact ⟨⟨fun _ => rfl, fun _ => rfl⟩, nofun⟩

/-- What is observed of the moves of a run, one after the other. -/
def along {α : Type} (observe : Engine σ → Move σ → List α) (e : Engine σ) :
    List (Move σ) → List α
  | [] => []
  | m :: rest => observe e m ++ along observe (e.moved m) rest

theorem along_append {α : Type} (observe : Engine σ → Move σ → List α) (e : Engine σ)
    (first second : List (Move σ)) :
    along observe e (first ++ second) =
      along observe e first ++ along observe (e.after first) second := by
  induction first generalizing e with
  | nil => rfl
  | cons m rest ih =>
    simp only [List.cons_append, along, ih, List.append_assoc]
    rfl

/-- The match that the script at an index registers in its next step. -/
def registers? (e : Engine σ) (i : Nat) (wake : Wake) : Option PendingMatch :=
  (e.scripts[i]?).bind fun s => Run.registers? e.table wake ⟨s, e.world⟩

def registered (i : Nat) (e : Engine σ) : Move σ → List PendingMatch
  | .step j wake => if j = i then (e.registers? i wake).toList else []
  | _ => []

/-- The matches that the script at an index has registered and not waited for. -/
def pending (e : Engine σ) (i : Nat) : List PendingMatch :=
  ((e.scripts[i]?).map (·.watch.pending)).getD []

def isAwaiting (e : Engine σ) (i : Nat) : Bool := (e.scripts[i]?).any (·.awaiting?.isSome)

/-- A script has registered matches, for whose subscription some events are queued. -/
structure Collecting (e : Engine σ) (i id : Nat) (pending : List PendingMatch)
    (heard : List GameEvent) : Prop where
  watches : ∃ s, e.scripts[i]? = some s ∧ s.watch = ⟨pending, some id⟩
  queued : e.world.stream.queued id = heard

/-- A script waits for a match. Of the events that were meant for it, it has received some in which
there was nothing to find, and the others are still queued. -/
structure Listening (e : Engine σ) (i id : Nat) (pending : List PendingMatch)
    (deadline : Option Nat) (passed heard : List GameEvent) : Prop where
  waits : ∃ s, e.scripts[i]? = some s ∧ s.phase = .waiting (.hit id pending deadline)
  queued : heard = passed ++ e.world.stream.queued id
  nothing : ∀ text, .line text ∈ passed → firstHit? pending text = none

theorem registered_of_stuck {e : Engine σ} {m : Move σ} {i : Nat} {s : Script}
    (found : e.scripts[i]? = some s)
    (other : ∀ wake, m = .step i wake → Run.step? e.table wake ⟨s, e.world⟩ = none) :
    registered i e m = [] := by
  cases m with
  | step j wake =>
    simp only [registered]
    split
    · next own =>
      subst own
      have stuck := Option.map_eq_none_iff.mp (other wake rfl)
      simp only [registers?, found, Option.bind_some, Run.registers?, Run.leadsTo?, stuck,
        Option.bind_none, Option.toList_none]
    · rfl
  | _ => rfl

theorem registered_of_step {e : Engine σ} {i : Nat} {s : Script} (found : e.scripts[i]? = some s) :
    registered i e (.step i wake) = (Run.registers? e.table wake ⟨s, e.world⟩).toList := by
  simp only [registered, if_pos, registers?, found, Option.bind_some]

theorem Collecting.moved {e : Engine σ} (accounted : e.Accounted) {i id : Nat}
    {pending : List PendingMatch} {heard : List GameEvent}
    (collecting : e.Collecting i id pending heard) {m : Move σ}
    (left : (e.moved m).pending i ≠ []) :
    (e.moved m).Collecting i id (pending ++ registered i e m) (heard ++ e.publishes m) := by
  obtain ⟨⟨s, found, watch⟩, queued⟩ := collecting
  obtain ⟨s', found', fares⟩ := script_fares found m
  have member : id ∈ s.subscriptions := by simp [Script.subscriptions, watch]
  have idle := accounted.idle found (congrArg Watch.subscription watch)
  have watch' : s'.watch = ⟨pending ++ registered i e m, some id⟩ := by
    have gone : s'.watch ≠ .empty := by
      intro empty
      exact left (by simp [Engine.pending, found', empty, Watch.empty])
    cases fares with
    | aside handled other =>
      rw [registered_of_stuck found other, List.append_nil]
      have same : s'.watch = s.watch := (handled.keeps e.world).1 .watch (by decide)
      exact same.trans watch
    | step own stepped =>
      subst own
      rw [registered_of_step found]
      cases Run.step_collects stepped with
      | register register collected =>
        rw [register, Option.toList_some]
        simp only [watch, Watch.register] at collected
        exact (congrArg Prod.fst collected).symm
      | nothing unregistered same =>
        rw [unregistered, Option.toList_none, List.append_nil]
        exact same.trans watch
      | await _ _ empty => exact absurd empty gone
      | clear _ empty => exact absurd empty gone
  have member' : id ∈ s'.subscriptions := by simp [Script.subscriptions, watch']
  refine ⟨⟨s', found', watch'⟩, ?_⟩
  rw [queued_moved accounted found member found' member' fun _ => idle, queued]

/-- From the first registration on, as long as the matches are not waited for, every match that is
registered is there and every event that is published is queued. -/
theorem Collecting.after {e : Engine σ} (reachable : e.Reachable) {i id : Nat}
    {pending : List PendingMatch} {heard : List GameEvent}
    (collecting : e.Collecting i id pending heard) {moves : List (Move σ)}
    (left : e.Throughout (fun e => e.pending i ≠ []) moves) :
    (e.after moves).Collecting i id (pending ++ along (registered i) e moves)
      (heard ++ along publishes e moves) := by
  induction moves generalizing e pending heard with
  | nil =>
    simp only [along, List.append_nil]
    exact collecting
  | cons m rest ih =>
    have next := ih (reachable.move m) (collecting.moved reachable.accounted left.2.first) left.2
    simpa only [along, after_cons, List.append_assoc] using next

theorem collecting_of_first {e : Engine σ} (reachable : e.Reachable) {i : Nat} {m : PendingMatch}
    (unwatched : e.pending i = []) (first : e.registers? i wake = some m) :
    ∃ id, (e.moved (.step i wake)).Collecting i id [m] [] := by
  obtain ⟨s, found, registers⟩ := Option.bind_eq_some_iff.mp first
  obtain ⟨⟨q, command, arguments⟩, led, _⟩ := Option.bind_eq_some_iff.mp registers
  have stepped := Run.step_of_leadsTo led
  have found' := script_step found stepped
  have nothing : s.watch.pending = [] := by simpa [Engine.pending, found] using unwatched
  have closed := (reachable.orderly found).paired.mp nothing
  have collects := Run.step_collects stepped
  generalize Run.conclude (Commands.perform q arguments command) = r at *
  cases collects with
  | register registered collected =>
    cases registers.symm.trans registered
    simp only [Watch.register, closed, nothing, List.nil_append] at collected
    have watch := (congrArg Prod.fst collected).symm
    have stream := (congrArg Prod.snd collected).symm
    simp only at watch stream
    refine ⟨_, ⟨⟨r.script, found', watch⟩, ?_⟩⟩
    rw [moved_step found stepped]
    simp only [stream]
    exact (reachable.accounted.publishAll _).queued_new
  | nothing unregistered => cases registers.symm.trans unregistered
  | await unregistered => cases registers.symm.trans unregistered
  | clear unregistered => cases registers.symm.trans unregistered

theorem Collecting.begin {e : Engine σ} (reachable : e.Reachable) {i id : Nat}
    {pending : List PendingMatch} {heard : List GameEvent}
    (collecting : e.Collecting i id pending heard)
    (begins : (e.moved (.step i wake)).isAwaiting i) :
    ∃ deadline, (e.moved (.step i wake)).Listening i id pending deadline []
      (heard ++ e.publishes (.step i wake)) := by
  obtain ⟨⟨s, found, watch⟩, queued⟩ := collecting
  obtain ⟨s', found', fares⟩ := script_fares found (.step i wake)
  have awaits : s'.awaiting?.isSome := by simpa [isAwaiting, found'] using begins
  have before : s.awaiting? = none := by
    refine Option.not_isSome_iff_eq_none.mp fun some => ?_
    rw [(reachable.orderly found).taken some] at watch
    cases watch
  have awaiting : s'.awaiting? = some (id, pending) := by
    cases fares with
    | aside handled =>
      have same : s'.awaiting? = s.awaiting? := by
        simp only [Script.awaiting?, (handled.keeps e.world).2]
      rw [same, before] at awaits
      cases awaits
    | step _ stepped =>
      cases Run.step_collects stepped with
      | await _ ready _ awaiting =>
        rw [watch] at ready
        cases Watch.ready_some ready
        exact awaiting
      | nothing _ _ same =>
        rcases same with idle | same
        · rw [idle] at awaits
          cases awaits
        · rw [same.trans before] at awaits
          cases awaits
      | register _ _ idle =>
        rw [idle] at awaits
        cases awaits
      | clear _ _ idle =>
        rw [idle] at awaits
        cases awaits
  have member : id ∈ s.subscriptions := by simp [Script.subscriptions, watch]
  have member' : id ∈ s'.subscriptions := by
    simp [Script.subscriptions, Script.listening_of_awaiting awaiting]
  have idle := reachable.accounted.idle found (congrArg Watch.subscription watch)
  obtain ⟨deadline, waits⟩ := Script.waits_of_awaiting awaiting
  refine ⟨deadline, ⟨s', found', waits⟩, ?_, by simp⟩
  rw [queued_moved reachable.accounted found member found' member' fun _ => idle, queued,
    List.nil_append]

theorem listens_of_hit {s : Script} {id : Nat} {pending : List PendingMatch} {deadline : Option Nat}
    (waits : s.phase = .waiting (.hit id pending deadline)) :
    s.listening = some id ∧ id ∈ s.subscriptions := by
  have hears : s.listening = some id := by
    simp only [Script.listening, waits, Wait.subscription?]
  exact ⟨hears, by simp [Script.subscriptions, hears]⟩

theorem Listening.stuck {e : Engine σ} {i id : Nat} {pending : List PendingMatch}
    {deadline : Option Nat} {passed heard : List GameEvent}
    (listening : e.Listening i id pending deadline passed heard) {s : Script}
    (found : e.scripts[i]? = some s) (stuck : Run.step? e.table wake ⟨s, e.world⟩ = none) :
    received i e (.step i wake) = [] := by
  obtain ⟨s₀, found₀, waits⟩ := listening.waits
  cases found.symm.trans found₀
  rw [received_of_step found (listens_of_hit waits).1]
  split
  · next taking =>
    subst taking
    have nothingThere : e.world.stream.take? id = none := by
      simpa [Run.step?, Run.turn?, waits, Run.wake?, Wait.subscription?] using stuck
    rw [Stream.take_none nothingThere]
    rfl
  · rfl

theorem Listening.stepped {e : Engine σ} (accounted : e.Accounted) {i id : Nat}
    {pending : List PendingMatch} {deadline : Option Nat} {passed heard : List GameEvent}
    (listening : e.Listening i id pending deadline passed heard) {s : Script}
    (found : e.scripts[i]? = some s) {r : Run σ}
    (stepped : Run.step? e.table wake ⟨s, e.world⟩ = some r)
    (still : r.script.awaiting?.isSome) :
    (e.moved (.step i wake)).Listening i id pending deadline
      (passed ++ received i e (.step i wake)) heard := by
  obtain ⟨⟨s₀, found₀, waits⟩, queued, nothing⟩ := listening
  cases found.symm.trans found₀
  obtain ⟨hears, member⟩ := listens_of_hit waits
  obtain ⟨same, change⟩ := Run.step_awaiting waits stepped still
  have found' := script_step found stepped
  have waits' := same.trans waits
  rw [received_of_step found hears]
  rcases change with ⟨aside, stream⟩ | ⟨rfl, event, rest, queue, taken, unfound⟩
  · rw [if_neg aside, List.append_nil]
    refine ⟨⟨r.script, found', waits'⟩, ?_, nothing⟩
    rw [moved_step found stepped]
    simp only [stream]
    exact queued
  · have opened := ((accounted_iff found).mp accounted).exact.mem_iff.mpr
      (List.mem_append_left _ member)
    rw [if_pos rfl, queue, List.head?_cons, Option.toList_some]
    refine ⟨⟨r.script, found', waits'⟩, ?_, ?_⟩
    · rw [moved_step found stepped]
      simp only [taken]
      rw [Stream.queued_setQueue_self opened, List.append_assoc, List.singleton_append, ← queue]
      exact queued
    · intro text among
      rcases List.mem_append.mp among with earlier | here
      · exact nothing text earlier
      · exact unfound text (List.mem_singleton.mp here).symm

theorem Listening.moved {e : Engine σ} (accounted : e.Accounted) {i id : Nat}
    {pending : List PendingMatch} {deadline : Option Nat} {passed heard : List GameEvent}
    (listening : e.Listening i id pending deadline passed heard) {m : Move σ}
    (still : (e.moved m).isAwaiting i) :
    (e.moved m).Listening i id pending deadline (passed ++ received i e m)
      (heard ++ e.publishes m) := by
  obtain ⟨s, found, waits⟩ := listening.waits
  obtain ⟨hears, member⟩ := listens_of_hit waits
  obtain ⟨s', found', fares⟩ := script_fares found m
  cases fares with
  | aside handled other =>
    rcases m.step_or i with ⟨wake, rfl⟩ | elsewhere
    · have stuck := other wake rfl
      rw [listening.stuck found stuck, moved_stuck found stuck, publishes_of_stuck found stuck,
        List.append_nil, List.append_nil]
      exact listening
    · have waits' := (handled.keeps e.world).2.trans waits
      rw [received_of_other elsewhere, List.append_nil]
      refine ⟨⟨s', found', waits'⟩, ?_, listening.nothing⟩
      rw [queued_moved accounted found member found' (listens_of_hit waits').2
        fun own => by simp [elsewhere] at own, ← List.append_assoc, ← listening.queued]
  | @step wake r own stepped =>
    subst own
    have awaits : r.script.awaiting?.isSome := by simpa [isAwaiting, found'] using still
    have quiet : e.publishes (.step i wake) = [] := by
      simp only [publishes, found, Option.elim_some]
      exact Run.publishes_of_listening hears
    rw [quiet, List.append_nil]
    exact listening.stepped accounted found stepped awaits

/-- As long as a script waits for a match, it misses no event, receives none in which there is
something to find, and keeps its deadline. -/
theorem Listening.after {e : Engine σ} (reachable : e.Reachable) {i id : Nat}
    {pending : List PendingMatch} {deadline : Option Nat} {passed heard : List GameEvent}
    (listening : e.Listening i id pending deadline passed heard) {moves : List (Move σ)}
    (still : e.Throughout (fun e => e.isAwaiting i) moves) :
    (e.after moves).Listening i id pending deadline (passed ++ along (received i) e moves)
      (heard ++ along publishes e moves) := by
  induction moves generalizing e passed heard with
  | nil =>
    simp only [along, List.append_nil]
    exact listening
  | cons m rest ih =>
    have next := ih (reachable.move m) (listening.moved reachable.accounted still.2.first) still.2
    simpa only [along, after_cons, List.append_assoc] using next

/-- A wait for matches finds the earliest line there is. The first match is registered while none is
pending; what is published from then on is meant for the wait, be it before the other matches are
registered, between them or while the script waits, and nothing that was published before. A script
that is not interrupted goes on with a hit, or when the time that was fixed at the beginning has
come, though nothing that it has received could have been found. -/
theorem await_finds_earliest {e : Engine σ} (reachable : e.Reachable) {i : Nat} {m : PendingMatch}
    {wake₁ wake₂ wake₃ : Wake} (unwatched : e.pending i = [])
    (first : e.registers? i wake₁ = some m) (collecting listening : List (Move σ))
    {e₁ e₂ e₃ : Engine σ} (opened : e₁ = e.moved (.step i wake₁))
    (left : e₁.Throughout (fun e => e.pending i ≠ []) collecting)
    (begun : e₂ = (e₁.after collecting).moved (.step i wake₂))
    (still : e₂.Throughout (fun e => e.isAwaiting i) listening) (later : e₃ = e₂.after listening)
    {s₂ s s' : Script} (found₂ : e₂.scripts[i]? = some s₂) (found : e₃.scripts[i]? = some s)
    (uninterrupted : wake₃ ≠ .message) (found' : (e₃.moved (.step i wake₃)).scripts[i]? = some s')
    (ended : s'.awaiting? = none) :
    let pending := m :: along (registered i) e₁ collecting
    let published := along publishes e₁ (collecting ++ .step i wake₂ :: listening)
    let passed := along (received i) e₂ listening
    ∃ id outcome q, s.listening = some id ∧ published = passed ++ e₃.world.stream.queued id ∧
      s.deadline? = s₂.deadline? ∧ Run.Keeps [.stream] ⟨s, e₃.world⟩ q ∧
      s' = (q.settle outcome).script ∧
      match outcome with
      | some hit => IsEarliestHit pending published hit
      | none => (∃ deadline, s.deadline? = some deadline ∧ deadline ≤ e₃.world.now) ∧
          ∀ text, .line text ∈ passed → ∀ m ∈ pending, m.matcher.find? text = none := by
  subst opened begun later
  obtain ⟨id, collected⟩ := collecting_of_first reachable unwatched first
  have opened := reachable.move (.step i wake₁)
  have collected := collected.after opened left
  obtain ⟨deadline, begins⟩ := collected.begin (opened.after _) still.first
  have listened := begins.after ((opened.after _).move _) still
  obtain ⟨⟨s₀, found₀, waits⟩, queued, nothing⟩ := listened
  cases found.symm.trans found₀
  obtain ⟨s₀, found₀, waits₂⟩ := begins.waits
  cases found₂.symm.trans found₀
  have awaits : s.awaiting? = some (id, m :: along (registered i) (e.moved (.step i wake₁))
      collecting) := by
    simp only [Script.awaiting?, waits]
    rfl
  obtain ⟨s₁, found₁, fares⟩ := script_fares found (.step i wake₃)
  cases found'.symm.trans found₁
  rw [List.nil_append] at queued nothing
  rw [List.nil_append, List.append_assoc, ← along, ← along_append] at queued
  cases fares with
  | aside handled =>
    rw [Script.awaiting?, (handled.keeps e.world).2, ← Script.awaiting?, awaits] at ended
    cases ended
  | step own stepped =>
    cases own
    obtain ⟨outcome, q, aside, rfl, outcomes⟩ :=
      Run.step_settles waits uninterrupted stepped ended
    refine ⟨id, outcome, q, Script.listening_of_awaiting awaits, queued, ?_, aside, rfl, ?_⟩
    · simp only [Script.deadline?, waits, waits₂]
    cases outcome with
    | some hit =>
      obtain ⟨text, rest, queue, hits⟩ := outcomes
      simp only [queued, queue]
      exact isEarliestHit_of_firstHit hits nothing
    | none =>
      refine ⟨?_, fun text among => firstHit_none.mp (nothing text among)⟩
      cases deadline with
      | none => cases outcomes
      | some time =>
        refine ⟨time, ?_, of_decide_eq_true outcomes⟩
        simp only [Script.deadline?, waits, Wait.deadline?]

/-- A script that registers two matches and waits for them, at its first line. -/
def fishing : Engine MemoryClient :=
  (plain {}).after
    [.start "fishing" "match one apple\nmatchre two /b(.)/\nmatchwait\nexit\none:\ntwo:\nexit" [],
      .step 0 .message]

theorem await_finds_earliest_fishing : ∃ (m : PendingMatch) (hit : Hit),
    fishing.registers? 0 .message = some m ∧
    IsEarliestHit
      (m :: along (registered 0) (fishing.moved (.step 0 .message))
        [.publish (.line "pear"), .step 0 .message])
      (along publishes (fishing.moved (.step 0 .message))
        ([Move.publish (.line "pear"), .step 0 .message] ++ Move.step 0 .message ::
          [.publish .prompt, .step 0 .event, .publish (.line "blue apple"), .step 0 .event]))
      hit := by
  have reachable : fishing.Reachable := by
    unfold fishing
    exact (plain_reachable _).after _
  let e₁ := fishing.moved (.step 0 .message)
  let e₂ := (e₁.after [.publish (.line "pear"), .step 0 .message]).moved (.step 0 .message)
  let e₃ := e₂.after
    [.publish .prompt, .step 0 .event, .publish (.line "blue apple"), .step 0 .event]
  have facts : fishing.pending 0 = [] ∧ (fishing.registers? 0 .message).isSome ∧
      e₁.Throughout (fun e => e.pending 0 ≠ []) [.publish (.line "pear"), .step 0 .message] ∧
      e₂.Throughout (fun e => e.isAwaiting 0)
        [.publish .prompt, .step 0 .event, .publish (.line "blue apple"), .step 0 .event] ∧
      (e₂.scripts[0]?).isSome ∧ (e₃.scripts[0]?).map (fun s : Script => s.deadline?) = some none ∧
      ((e₃.moved (.step 0 .event)).scripts[0]?).map (fun s : Script => s.awaiting?.isNone) =
        some true := by
    decide +kernel
  obtain ⟨unwatched, registers, left, still, begins, before, after⟩ := facts
  obtain ⟨m, first⟩ := Option.isSome_iff_exists.mp registers
  obtain ⟨s₂, found₂⟩ := Option.isSome_iff_exists.mp begins
  obtain ⟨s, found, endless⟩ := Option.map_eq_some_iff.mp before
  obtain ⟨s', found', ended⟩ := Option.map_eq_some_iff.mp after
  obtain ⟨id, outcome, q, _, _, _, _, _, outcomes⟩ := await_finds_earliest reachable unwatched first
    [.publish (.line "pear"), .step 0 .message]
    [.publish .prompt, .step 0 .event, .publish (.line "blue apple"), .step 0 .event] rfl left rfl
    still rfl found₂ found (by decide) found' (Option.isNone_iff_eq_none.mp ended)
  cases outcome with
  | some hit => exact ⟨m, hit, first, outcomes⟩
  | none =>
    obtain ⟨⟨deadline, due, _⟩, _⟩ := outcomes
    cases endless.symm.trans due

end Engine

end Questline
