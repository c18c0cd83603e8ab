import Mathlib.Algebra.GroupWithZero.Nat
import Questline.MemoryClient
import Questline.Proofs.Matching

/-! What the stream has to keep. Every open subscription belongs to a script that has not ended, and
such a script has one for the matches it has registered, if there are any, and one for the game
output it waits for. -/
namespace Questline

/-- Whether a wait is for game output: for a line, an event or a match. -/
def Wait.isForGame : Wait → Bool
  | line .. | event .. | hit .. => true
  | _ => false

namespace Script

def isAwaitingGame (s : Script) : Bool :=
  match s.phase with
  | .waiting w => w.isForGame
  | _ => false

/-- The number of subscriptions that a script needs: one if it has registered matches, and one if it
is blocked on game output. -/
def share (s : Script) : Nat :=
  (if s.watch.pending = [] then 0 else 1) + if s.isAwaitingGame then 1 else 0

def isPast (s : Script) : Bool :=
  match s.phase with
  | .stopped | .finished => true
  | _ => false

theorem listening_of_isPast {s : Script} (past : s.isPast) : s.listening = none := by
  unfold listening
  unfold isPast at past
  split at past
  · next stopped => rw [stopped]
  · next finished => rw [finished]
  · cases past

theorem isPast_of_isFinished {s : Script} (finished : s.isFinished) : s.isPast := by
  unfold isFinished at finished
  split at finished
  · next last => simp only [isPast, last]
  · cases finished

theorem isPast_of_busy {s : Script} (busy : s.phase.isBusy) : s.isPast = false := by
  unfold isPast
  split
  · next stopped => rw [stopped] at busy; cases busy
  · next finished => rw [finished] at busy; cases busy
  · rfl

theorem length_listening (s : Script) :
    s.listening.toList.length = if s.isAwaitingGame then 1 else 0 := by
  unfold listening isAwaitingGame
  cases s.phase with
  | waiting w => cases w <;> rfl
  | _ => rfl

theorem Orderly.length_subscriptions {s : Script} (orderly : s.Orderly) :
    s.subscriptions.length = s.share := by
  rw [subscriptions, List.length_append, length_listening, share]
  congr 1
  split
  · next none =>
    rw [orderly.paired.mp none]
    rfl
  · next some =>
    cases opened : s.watch.subscription with
    | none => exact absurd (orderly.paired.mpr opened) some
    | some id => rfl

end Script

variable {σ : Type} {wake : Wake}

namespace Run

theorem conclude_isPast {q : Run σ} {outcome : Outcome}
    (past : (conclude (q, outcome)).script.isPast) :
    (conclude (q, outcome)).script.watch = .empty := by
  cases outcome with
  | crashed => rfl
  | fault f =>
    simp only [conclude, handleFault] at past
    split at past <;> cases past
  | _ => cases past

variable [Client σ]

/-- A script comes to its end only by letting go of its matches. -/
theorem step_isPast {table : CommandTable} {r r' : Run σ} (stepped : r.step? table wake = some r')
    (bare : r.script.isPast → r.script.watch = .empty) (past : r'.script.isPast) :
    r'.script.watch = .empty := by
  rcases step_cases stepped with turn | ⟨q, line, turn, rfl⟩
  · cases turn_takes turn with
    | shutDown => rfl
    | sayGoodbye stopped => exact bare (by simp only [Script.isPast, stopped])
    | meet => exact conclude_isPast past
    | stay busy _ phase =>
      rw [← phase] at busy
      exact absurd past (by rw [Script.isPast_of_busy busy]; decide)
    | comeUp _ _ _ _ comes => cases comes <;> cases past
    | @passOver w id event stream waits =>
      simp only [Script.isPast, withStream, waits] at past
      cases past
    | _ => cases past
  · exact conclude_isPast past

/-- Whatever ends a wait for a match, no match is left. -/
theorem step_of_awaiting {table : CommandTable} {r r' : Run σ}
    (stepped : r.step? table wake = some r')
    (awaits : r.script.awaiting?.isSome) (taken : r.script.watch = .empty) :
    r'.script.watch = .empty := by
  obtain ⟨⟨id, pending⟩, awaits⟩ := Option.isSome_iff_exists.mp awaits
  rcases step_cases stepped with turn | ⟨q, line, turn, rfl⟩
  · cases ended_sheds turn with
    | nothing _ watch => exact watch.trans taken
    | take _ _ watch => exact watch.trans taken
    | release _ _ _ watch => exact watch.trans taken
    | clear _ _ watch => exact watch
  · cases (Script.listening_of_awaiting awaits).symm.trans (execute_turn turn).2.1

end Run

namespace Engine

variable [Client σ]

theorem Reachable.bare {e : Engine σ} (reachable : e.Reachable) {i : Nat} {s : Script}
    (found : e.scripts[i]? = some s) : s.isPast → s.watch = .empty := by
  refine reachable.invariant (P := fun s => s.isPast → s.watch = .empty) ?_ ?_ ?_ found
  · intro config name source arguments past
    cases past
  · intro s s' handled bare past
    obtain ⟨kept, phase⟩ := handled.keeps e.world
    rw [Script.isPast, phase] at past
    have watch : s'.watch = s.watch := kept .watch (by decide)
    exact watch.trans (bare past)
  · intro table wake r r' stepped bare
    exact Run.step_isPast stepped bare

theorem Reachable.subscriptions_of_finished {e : Engine σ} (reachable : e.Reachable) {s : Script}
    (member : s ∈ e.scripts) (finished : s.isFinished) : s.subscriptions = [] := by
  obtain ⟨i, found⟩ := List.mem_iff_getElem?.mp member
  have past := Script.isPast_of_isFinished finished
  rw [Script.subscriptions, reachable.bare found past, Script.listening_of_isPast past]
  rfl

theorem Reachable.length_subscriptions {e : Engine σ} (reachable : e.Reachable) {s : Script}
    (member : s ∈ e.scripts) :
    s.subscriptions.length = if s.isFinished then 0 else s.share := by
  split
  · next finished =>
    rw [reachable.subscriptions_of_finished member finished]
    rfl
  · obtain ⟨i, found⟩ := List.mem_iff_getElem?.mp member
    exact (reachable.orderly found).length_subscriptions

theorem sum_share (scripts : List Script) :
    (scripts.map fun s => if s.isFinished then 0 else s.share).sum =
      ((scripts.filter fun s => !s.isFinished).map Script.share).sum := by
  induction scripts with
  | nil => rfl
  | cons s rest ih =>
    rw [List.map_cons, List.sum_cons, ih, List.filter_cons]
    cases s.isFinished with
    | true => exact Nat.zero_add _
    | false => rfl

theorem Reachable.subscriberCount {e : Engine σ} (reachable : e.Reachable) :
    e.world.stream.subscriberCount =
      ((e.scripts.filter fun s => !s.isFinished).map Script.share).sum := by
  have same : e.scripts.map (fun s => s.subscriptions.length) =
      e.scripts.map fun s => if s.isFinished then 0 else s.share :=
    List.map_congr_left fun s member => reachable.length_subscriptions member
  calc e.world.stream.subscriberCount
      = e.world.stream.ids.length := (List.length_map _).symm
    _ = (e.scripts.flatMap Script.subscriptions).length := reachable.accounted.exact.length_eq
    _ = (e.scripts.map fun s => s.subscriptions.length).sum := List.length_flatMap
    _ = ((e.scripts.filter fun s => !s.isFinished).map Script.share).sum := by
      rw [same, sum_share]

/-- No subscription is left over. A script has one for its matches exactly as long as some are
registered; the open subscriptions are as many as the scripts that have not ended need, and one that
has ended holds none. A script that has begun to wait for its matches has none registered, and none
after the wait either, however it ends. -/
theorem subscriptions_never_leak {e : Engine σ} (reachable : e.Reachable) :
    (∀ s ∈ e.scripts, s.watch.subscription.isSome ↔ s.watch.pending ≠ []) ∧
    e.world.stream.subscriberCount =
      ((e.scripts.filter fun s => !s.isFinished).map Script.share).sum ∧
    (∀ s ∈ e.scripts, s.isFinished → s.subscriptions = []) ∧
    ∀ (i : Nat) (s : Script), e.scripts[i]? = some s → s.awaiting?.isSome →
      s.watch.pending = [] ∧
        ∀ (m : Move σ) (s' : Script), (e.moved m).scripts[i]? = some s' → s'.watch.pending = [] := by
  refine ⟨?_, reachable.subscriberCount, fun s => reachable.subscriptions_of_finished, ?_⟩
  · intro s member
    obtain ⟨i, found⟩ := List.mem_iff_getElem?.mp member
    rw [Option.isSome_iff_ne_none, Ne, Ne, (reachable.orderly found).paired]
  · intro i s found awaits
    have taken := (reachable.orderly found).taken awaits
    refine ⟨congrArg Watch.pending taken, fun m s' found' => ?_⟩
    obtain ⟨_, same, fares⟩ := script_fares found m
    cases found'.symm.trans same
    cases fares with
    | aside handled =>
      rw [(handled.keeps e.world).1 .watch (by decide)]
      exact congrArg Watch.pending taken
    | step _ stepped =>
      exact congrArg Watch.pending (Run.step_of_awaiting stepped awaits taken)

/-- A script that has registered a match and waits for a line, and one that has ended with a match
registered. -/
def audience : Engine MemoryClient :=
  (plain {}).after
    [.start "first" "match here apple\nwaitfor pear\nhere:" [],
      .start "second" "match here fig\nexit\nhere:" [],
      .step 0 .message, .step 0 .message, .step 0 .message, .step 1 .message, .step 1 .message,
      .step 1 .message, .step 1 .message, .step 1 .message, .step 1 .message]

theorem subscriptions_never_leak_audience :
    audience.scripts.map (fun s => (s.share, s.isFinished)) = [(2, false), (0, true)] ∧
      audience.world.stream.subscriberCount = 2 := by
  have reachable : audience.Reachable := by
    unfold audience
    exact (plain_reachable _).after _
  have facts : audience.scripts.map (fun s => (s.share, s.isFinished)) = [(2, false), (0, true)] ∧
      ((audience.scripts.filter fun s => !s.isFinished).map Script.share).sum = 2 := by
    decide +kernel
  exact ⟨facts.1, (subscriptions_never_leak reachable).2.1.trans facts.2⟩

end Engine

end Questline
