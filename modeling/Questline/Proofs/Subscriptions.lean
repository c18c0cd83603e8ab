import Questline.Proofs.Moves
import Questline.Proofs.Trades

/-! Who listens to what. A script holds a subscription for the matches it has registered and one for
the game output it waits for; the stream holds these and no others. A step of a script neither opens
nor closes the subscriptions of another one, and takes events from its own only. -/
namespace Questline

variable {σ : Type}

namespace Watch

variable (w : Watch) (stream : Stream) (busy : Option Nat)

theorem ready_some {w : Watch} {id : Nat} {pending : List PendingMatch}
    (ready : w.ready? = some (id, pending)) : w = ⟨pending, some id⟩ := by
  obtain ⟨matches_, subscription⟩ := w
  unfold ready? at ready
  split at ready
  · next shape opened =>
    cases ready
    simp only at shape opened
    rw [shape, opened]
  · cases ready

theorem clear_follows : Stream.Follows busy [] stream (w.clear stream).2 := by
  unfold clear
  cases w.subscription with
  | none => exact .refl busy stream
  | some id => exact .unsubscribe busy stream id

theorem register_follows (m : PendingMatch) :
    Stream.Follows busy [] stream (w.register stream m).2 := by
  unfold register
  split
  · exact .refl busy stream
  · exact .subscribe busy stream

variable {w stream} {others : List Nat}

theorem clear_holds (held : stream.Holds (w.subscription.toList ++ others)) :
    (w.clear stream).2.Holds others := by
  unfold clear
  cases subscription : w.subscription with
  | none => rw [subscription] at held; exact held
  | some id => rw [subscription] at held; exact held.unsubscribe

theorem register_holds (held : stream.Holds (w.subscription.toList ++ others)) (m : PendingMatch) :
    (w.register stream m).2.Holds ((w.register stream m).1.subscription.toList ++ others) := by
  unfold register
  split
  · exact held
  · next none => rw [none] at held; exact held.subscribe

end Watch

namespace Run

theorem conclude_follows (busy : Option Nat) (q : Run σ) (outcome : Outcome) :
    Stream.Follows busy [] q.world.stream (conclude (q, outcome)).world.stream := by
  cases outcome with
  | crashed => exact q.script.watch.clear_follows q.world.stream busy
  | done => exact .refl busy _
  | interrupted => exact .refl busy _
  | waiting w => exact .refl busy _
  | fault f => exact .of_eq (handleFault_keeps q f .stream (by decide))

theorem conclude_holds {q : Run σ} {outcome : Outcome} {others : List Nat}
    (held : q.world.stream.Holds
      (q.script.watch.subscription.toList ++ outcome.subscription?.toList ++ others)) :
    (conclude (q, outcome)).world.stream.Holds
      ((conclude (q, outcome)).script.subscriptions ++ others) := by
  cases outcome with
  | crashed =>
    rw [List.append_assoc] at held
    exact Watch.clear_holds held
  | done => exact held
  | interrupted => exact held
  | waiting w => exact held
  | fault f =>
    have stream : (q.handleFault f).world.stream = q.world.stream :=
      handleFault_keeps q f .stream (by decide)
    have watch : (q.handleFault f).script.watch = q.script.watch :=
      handleFault_keeps q f .watch (by decide)
    change (q.handleFault f).world.stream.Holds ((q.handleFault f).script.subscriptions ++ others)
    rw [stream, Script.subscriptions, watch, handleFault_listening]
    exact held

variable [Client σ] {wake : Wake}

theorem perform_follows (busy : Option Nat) (q : Run σ) (arguments : String) (command : Builtin) :
    Stream.Follows busy [] q.world.stream (Commands.perform q arguments command).1.world.stream := by
  have trades := Commands.perform_trades q arguments command
  generalize Commands.perform q arguments command = result at trades
  cases trades with
  | nothing _ _ stream => exact .of_eq stream
  | register => exact q.script.watch.register_follows q.world.stream busy _
  | await _ _ _ stream => exact .of_eq stream
  | clear => exact q.script.watch.clear_follows q.world.stream busy
  | listen _ _ stream =>
    rw [stream]
    exact .subscribe busy _
  | giveUp _ _ stream =>
    rw [stream]
    exact (Stream.Follows.subscribe busy _).trans (.unsubscribe busy _ _)

theorem perform_holds {q : Run σ} {others : List Nat}
    (held : q.world.stream.Holds (q.script.watch.subscription.toList ++ others))
    (arguments : String) (command : Builtin) :
    (Commands.perform q arguments command).1.world.stream.Holds
      ((Commands.perform q arguments command).1.script.watch.subscription.toList ++
        (Commands.perform q arguments command).2.subscription?.toList ++ others) := by
  have trades := Commands.perform_trades q arguments command
  generalize Commands.perform q arguments command = result at trades
  cases trades with
  | nothing _ watch stream silent =>
    rw [watch, stream, silent, Option.toList_none, List.append_nil]
    exact held
  | register =>
    change (q.script.watch.register q.world.stream _).2.Holds
      ((q.script.watch.register q.world.stream _).1.subscription.toList ++ [] ++ others)
    rw [List.append_nil]
    exact Watch.register_holds held _
  | await _ ready watch stream =>
    rw [Watch.ready_some ready] at held
    rw [stream, watch]
    exact held
  | clear => exact Watch.clear_holds held
  | listen _ watch stream listens =>
    simp only [stream, watch, Outcome.subscription?, listens]
    refine held.subscribe.perm ?_
    rw [List.append_assoc]
    exact List.perm_middle.symm
  | giveUp _ watch stream =>
    simp only [stream, watch, Outcome.subscription?, Option.toList_none, List.append_nil]
    exact held.subscribe.unsubscribe

theorem publishes_of_listening {table : CommandTable} {r : Run σ} {id : Nat}
    (hears : r.script.listening = some id) : r.publishes table wake = [] := by
  unfold publishes
  split
  · next turn => cases hears.symm.trans (execute_turn turn).2.1
  · rfl

theorem publishes_ended {table : CommandTable} {r r' : Run σ}
    (turn : r.turn? wake = some (.ended r')) :
    r.publishes table wake = [] := by
  simp only [publishes, turn]

theorem way_of_turn (table : CommandTable) {r q : Run σ} {line : String}
    (turn : r.turn? wake = some (.execute q line)) :
    r.script.listening = none ∧
      (q.dispatch table line.toList).1.script.watch = r.script.watch ∧
      (q.dispatch table line.toList).1.world.stream =
        r.world.stream.publishAll (r.publishes table wake) := by
  obtain ⟨_, silent, _, _, aside⟩ := execute_turn turn
  have kept := aside.trans (dispatch_keeps table q line.toList)
  have before : q.world.stream = r.world.stream := aside .stream (by decide)
  refine ⟨silent, kept .watch (by decide), ?_⟩
  rw [dispatch_stream, before]
  simp only [publishes, turn]

theorem nowhere_silent {table : CommandTable} {r q : Run σ} {line : List Char} {outcome : Outcome}
    (led : r.dispatch table line = (q, .ended outcome)) : outcome.subscription? = none := by
  have brief := dispatch_brief led
  cases outcome with
  | waiting w => cases brief
  | _ => rfl

/-- A step takes events from the subscription that the script listens to and from no other, and what
it publishes goes to all. -/
theorem step_follows {table : CommandTable} {r r' : Run σ}
    (stepped : r.step? table wake = some r') :
    Stream.Follows r.script.listening (r.publishes table wake) r.world.stream r'.world.stream := by
  rcases step_leads stepped with ⟨q', command, arguments, led, rfl⟩ | ⟨_, turn | aside⟩
  · obtain ⟨q, line, turn, way⟩ := leadsTo_some led
    have stream := (way_of_turn table turn).2.2
    rw [way] at stream
    have published :=
      Stream.Follows.publishAll r.script.listening r.world.stream (r.publishes table wake)
    rw [← stream] at published
    have performed := (perform_follows r.script.listening q' arguments command).trans
      (conclude_follows _ _ (Commands.perform q' arguments command).2)
    simpa using published.trans performed
  · rw [publishes_ended turn]
    cases ended_sheds turn with
    | nothing stream => exact .of_eq stream
    | take listens stream =>
      rw [stream, listens]
      exact .setQueue _ _ _
    | release listens before stream =>
      rw [stream, listens]
      rcases before with rfl | ⟨rest, rfl⟩
      · exact .unsubscribe _ _ _
      · exact (Stream.Follows.setQueue _ _ _).trans (.unsubscribe _ _ _)
    | clear silent stream =>
      rw [stream]
      exact Watch.clear_follows _ _ _
  · obtain ⟨q, line, q', outcome, turn, way, rfl⟩ := aside
    have stream := (way_of_turn table turn).2.2
    rw [way] at stream
    have published :=
      Stream.Follows.publishAll r.script.listening r.world.stream (r.publishes table wake)
    rw [← stream] at published
    simpa using published.trans (conclude_follows _ q' outcome)

/-- What is open besides the subscriptions of the script stays open, and nothing else does. -/
theorem step_holds {table : CommandTable} {r r' : Run σ} {others : List Nat}
    (stepped : r.step? table wake = some r')
    (held : r.world.stream.Holds (r.script.subscriptions ++ others)) :
    r'.world.stream.Holds (r'.script.subscriptions ++ others) := by
  rcases step_leads stepped with ⟨q', command, arguments, led, rfl⟩ | ⟨_, turn | aside⟩
  · obtain ⟨q, line, turn, way⟩ := leadsTo_some led
    obtain ⟨silent, watch, stream⟩ := way_of_turn table turn
    rw [way] at watch stream
    simp only [Script.subscriptions, silent, Option.toList_none, List.append_nil] at held
    refine conclude_holds (perform_holds ?_ arguments command)
    rw [watch, stream]
    exact held.publishAll _
  · simp only [Script.subscriptions] at held ⊢
    cases ended_sheds turn with
    | nothing stream watch listening =>
      rw [stream, watch, listening]
      exact held
    | take _ stream watch listening =>
      rw [stream, watch, listening]
      exact held.setQueue _ _
    | @release id stream listens before closed watch deaf =>
      rw [closed, watch, deaf, Option.toList_none, List.append_nil]
      have opened : stream.Holds (id :: (r.script.watch.subscription.toList ++ others)) := by
        rw [listens, List.append_assoc] at held
        have moved := held.perm List.perm_middle
        rcases before with rfl | ⟨rest, rfl⟩
        · exact moved
        · exact moved.setQueue _ _
      exact opened.unsubscribe
    | clear silent stream watch deaf =>
      rw [silent, Option.toList_none, List.append_nil] at held
      rw [stream, watch, deaf]
      exact Watch.clear_holds held
  · obtain ⟨q, line, q', outcome, turn, way, rfl⟩ := aside
    obtain ⟨silent, watch, stream⟩ := way_of_turn table turn
    rw [way] at watch stream
    simp only [Script.subscriptions, silent, Option.toList_none, List.append_nil] at held
    refine conclude_holds ?_
    rw [watch, stream, nowhere_silent way, Option.toList_none, List.append_nil]
    exact held.publishAll _

end Run

/-! ### The subscriptions of all scripts -/

theorem perm_eraseIdx {α : Type} {l : List α} {i : Nat} {a : α} (found : l[i]? = some a) :
    l.Perm (a :: l.eraseIdx i) := by
  induction l generalizing i with
  | nil => cases found
  | cons b l ih =>
    cases i with
    | zero =>
      cases found
      exact .refl _
    | succ i => exact ((ih found).cons b).trans (.swap a b _)

namespace Engine

/-- The stream holds the subscriptions of the scripts and no others. -/
def Accounted (e : Engine σ) : Prop :=
  e.world.stream.Holds (e.scripts.flatMap Script.subscriptions)

def apart (e : Engine σ) (i : Nat) : List Nat :=
  (e.scripts.eraseIdx i).flatMap Script.subscriptions

theorem accounted_iff {e : Engine σ} {i : Nat} {s : Script} (found : e.scripts[i]? = some s) :
    e.Accounted ↔ e.world.stream.Holds (s.subscriptions ++ e.apart i) := by
  have split : (e.scripts.flatMap Script.subscriptions).Perm (s.subscriptions ++ e.apart i) :=
    (perm_eraseIdx found).flatMap_right _
  exact ⟨fun held => held.perm split, fun held => held.perm split.symm⟩

theorem Accounted.address {e : Engine σ} (accounted : e.Accounted) {f : Script → Script}
    (same : ∀ s, (f s).subscriptions = s.subscriptions) (i : Nat) : (e.address i f).Accounted := by
  have unchanged : (e.scripts.modify i f).map Script.subscriptions =
      e.scripts.map Script.subscriptions := by
    refine List.ext_getElem? fun j => ?_
    rw [List.getElem?_map, List.getElem?_map, List.getElem?_modify]
    cases e.scripts[j]? with
    | none => rfl
    | some s =>
      simp only [Option.map_eq_map, Option.map_some]
      split
      · rw [same]
      · rfl
  unfold Accounted at accounted ⊢
  rw [List.flatMap_def] at accounted ⊢
  simp only [Engine.address, unchanged]
  exact accounted

def busy (e : Engine σ) : Move σ → Option Nat
  | .step i _ => (e.scripts[i]?).bind Script.listening
  | _ => none

/-- A move takes nothing from a subscription that the script at an index holds, unless that script
itself listens to it and takes a step. -/
theorem busy_ne {e : Engine σ} (accounted : e.Accounted) {m : Move σ} {i id : Nat} {s : Script}
    (found : e.scripts[i]? = some s) (member : id ∈ s.subscriptions)
    (idle : m.isStep i → s.listening ≠ some id) : e.busy m ≠ some id := by
  cases m with
  | step j wake =>
    intro listens
    obtain ⟨other, there, hears⟩ := Option.bind_eq_some_iff.mp listens
    by_cases own : j = i
    · subst own
      cases found.symm.trans there
      exact idle (Move.isStep_iff.mpr ⟨wake, rfl⟩) hears
    · have first : id ∈ other.subscriptions := by simp [Script.subscriptions, hears]
      have second : id ∈ e.apart j :=
        List.mem_flatMap.mpr ⟨s, List.mem_eraseIdx_iff_getElem?.mpr ⟨i, Ne.symm own, found⟩, member⟩
      have distinct := ((accounted_iff there).mp accounted).distinct
      exact (List.nodup_append.mp distinct).2.2 id first id second rfl
  | _ => exact nofun

theorem Accounted.idle {e : Engine σ} (accounted : e.Accounted) {i id : Nat} {s : Script}
    (found : e.scripts[i]? = some s) (opened : s.watch.subscription = some id) :
    s.listening ≠ some id := by
  intro hears
  have distinct := ((accounted_iff found).mp accounted).distinct
  simp [Script.subscriptions, opened, hears] at distinct

variable [Client σ]

def publishes (e : Engine σ) : Move σ → List GameEvent
  | .publish event => [event]
  | .step i wake => (e.scripts[i]?).elim [] fun s => Run.publishes e.table wake ⟨s, e.world⟩
  | _ => []

theorem moved_follows (e : Engine σ) (m : Move σ) :
    Stream.Follows (e.busy m) (e.publishes m) e.world.stream (e.moved m).world.stream := by
  cases m with
  | publish event => exact .publish _ _ event
  | step i wake =>
    cases found : e.scripts[i]? with
    | none =>
      simp only [busy, publishes, moved, stepAt?, found]
      exact .refl _ _
    | some s =>
      cases stepped : Run.step? e.table wake ⟨s, e.world⟩ with
      | none =>
        have silent : Run.publishes e.table wake ⟨s, e.world⟩ = [] := by
          simp only [Run.publishes, Option.map_eq_none_iff.mp stepped]
        simp only [publishes, found, Option.elim_some, silent, moved_stuck found stepped]
        exact .refl _ _
      | some r =>
        simp only [busy, publishes, moved_step found stepped, found]
        exact Run.step_follows stepped
  | _ => exact .refl _ _

theorem Accounted.moved {e : Engine σ} (accounted : e.Accounted) (m : Move σ) :
    (e.moved m).Accounted := by
  cases m with
  | publish event => exact Stream.Holds.publish accounted event
  | step i wake =>
    cases taken : e.stepAt? i wake with
    | none =>
      simp only [Engine.moved, taken]
      exact accounted
    | some e' =>
      obtain ⟨s, r, found, stepped, rfl⟩ := stepAt_some taken
      have held := Run.step_holds stepped ((accounted_iff found).mp accounted)
      obtain ⟨within, _⟩ := List.getElem?_eq_some_iff.mp found
      simp only [Engine.moved, taken, Option.getD_some]
      refine (accounted_iff (i := i) (s := r.script) (List.getElem?_set_self within)).mpr ?_
      simpa only [apart, List.eraseIdx_set_eq] using held
  | stop i =>
    refine accounted.address (fun s => ?_) i
    unfold Script.stop
    split <;> rfl
  | suspend i =>
    refine accounted.address (fun s => ?_) i
    unfold Script.suspend
    split <;> rfl
  | resume i =>
    refine accounted.address (fun s => ?_) i
    unfold Script.resume
    split <;> rfl
  | goto i label =>
    refine accounted.address (fun s => ?_) i
    unfold Script.requestGoto
    split <;> rfl
  | start name source arguments =>
    have fresh : (Script.create e.config name (Program.parse source) arguments).subscriptions = [] :=
      rfl
    simp only [Accounted, Engine.moved, start, List.flatMap_append, List.flatMap_singleton, fresh,
      List.append_nil]
    exact accounted
  | _ => exact accounted

theorem Reachable.accounted {e : Engine σ} (reachable : e.Reachable) : e.Accounted := by
  induction reachable with
  | create created silent =>
    obtain ⟨world, scripts⟩ := create_ok created
    rw [Accounted, world, scripts, silent]
    exact .empty
  | move _ m ih => exact ih.moved m

theorem publishes_of_stuck {e : Engine σ} {i : Nat} {wake : Wake} {s : Script}
    (found : e.scripts[i]? = some s)
    (stuck : Run.step? e.table wake ⟨s, e.world⟩ = none) : e.publishes (.step i wake) = [] := by
  simp only [publishes, found, Option.elim_some, Run.publishes, Option.map_eq_none_iff.mp stuck]

/-- What a move publishes is queued for every subscription that is held on to. -/
theorem queued_moved {e : Engine σ} (accounted : e.Accounted) {m : Move σ} {i id : Nat}
    {s s' : Script} (found : e.scripts[i]? = some s) (member : id ∈ s.subscriptions)
    (found' : (e.moved m).scripts[i]? = some s') (member' : id ∈ s'.subscriptions)
    (idle : m.isStep i → s.listening ≠ some id) :
    (e.moved m).world.stream.queued id = e.world.stream.queued id ++ e.publishes m := by
  have held := (accounted_iff found).mp accounted
  have held' := (accounted_iff found').mp (accounted.moved m)
  have past := held.past id (List.mem_append_left _ member)
  have opened := held'.exact.mem_iff.mpr (List.mem_append_left _ member')
  exact ((moved_follows e m).kept id past opened).2 (busy_ne accounted found member idle)

end Engine

end Questline
