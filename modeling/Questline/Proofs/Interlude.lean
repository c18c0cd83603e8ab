import Questline.Proofs.Stopping
import Questline.Proofs.Suspension

/-! Suspending a waiting script and resuming it at once. The script is told of the resumption by a
message, which the wait takes without looking up from what it waits for. Until then the message
stands in front of everything else that the script is told, so it cannot be taken for a later
resumption. -/
namespace Questline

variable {σ : Type} {wake : Wake}

namespace Run

/-! ### Parking -/

def Turn.Parks : Turn σ → Prop
  | ended r => r.script.phase = .waiting .parked → r.script.state = .suspended
  | execute .. => True

theorem Turn.parks_of_free {r : Run σ} (free : r.script.isWaiting = false) :
    Turn.Parks (.ended r) := fun parked => absurd parked (Script.not_waiting free _)

variable [Client σ]

theorem arrive_parks (r : Run σ) : r.arrive.Parks := by
  unfold arrive
  split
  · next suspended => exact fun _ => beq_iff_eq.mp suspended
  · split
    · exact Turn.parks_of_free rfl
    · split
      · exact trivial
      · exact Turn.parks_of_free rfl

theorem throttle_parks (r : Run σ) : r.throttle.Parks := by
  unfold throttle
  split
  · intro parked
    cases parked
  · split
    · intro parked
      cases parked
    · exact arrive_parks r

theorem approach_parks (r : Run σ) : r.approach.Parks := by
  unfold approach
  split
  · split
    · exact arrive_parks r
    · exact throttle_parks r
  · exact Turn.parks_of_free rfl

theorem enter_parks {r : Run σ} (ready : r.script.phase = .ready) : r.enter.Parks := by
  unfold enter
  split
  · exact Turn.parks_of_free rfl
  · unfold takeUp
    dsimp only
    split
    · intro parked
      cases ready.symm.trans parked
    · exact approach_parks _

theorem proceed_parks {r : Run σ} (ready : r.script.phase = .ready) : r.proceed.Parks := by
  unfold proceed
  split
  · exact Turn.parks_of_free rfl
  · dsimp only
    split
    · exact Turn.parks_of_free rfl
    · split
      · exact enter_parks ready
      · split
        · exact enter_parks ready
        · exact Turn.parks_of_free rfl

theorem heed_parks {r : Run σ} {w : Wait} (waits : r.script.phase = .waiting w)
    (message : Control) (rest : List Control) : (r.heed w message rest).Parks := by
  cases message with
  | stop => exact Turn.parks_of_free rfl
  | goto label => exact Turn.parks_of_free rfl
  | resume =>
    cases w with
    | parked => exact approach_parks _
    | _ =>
      intro parked
      cases waits.symm.trans parked

theorem wake_parks {r : Run σ} {w : Wait} {t : Turn σ} (waits : r.script.phase = .waiting w)
    (woken : r.wake? w wake = some t) : t.Parks := by
  cases wake with
  | message =>
    simp only [wake?] at woken
    split at woken
    · cases woken
      exact heed_parks waits _ _
    · cases woken
  | event =>
    obtain ⟨id, event, stream, listens, _, rfl⟩ := wake_event woken
    cases met : (r.withStream stream).meet w event with
    | some result => exact Turn.parks_of_free (conclude_free (meet_some met).2).1
    | none =>
      intro parked
      cases waits.symm.trans parked
      cases listens
  | deadline =>
    simp only [wake?] at woken
    split at woken
    · cases woken
      cases w with
      | roundtime _ => exact throttle_parks r
      | delay _ => exact arrive_parks r
      | _ => exact Turn.parks_of_free rfl
    · cases woken

theorem turn_parks {r : Run σ} {t : Turn σ} (turn : r.turn? wake = some t) : t.Parks := by
  unfold turn? at turn
  split at turn
  · cases turn
    exact Turn.parks_of_free rfl
  · next ready =>
    cases turn
    exact proceed_parks ready
  · next w waits => exact wake_parks waits turn
  · cases turn
    exact Turn.parks_of_free rfl
  · cases turn
    exact Turn.parks_of_free rfl
  · cases turn

theorem step_parks {table : CommandTable} {r r' : Run σ} (stepped : r.step? table wake = some r')
    (parked : r'.script.phase = .waiting .parked) : r'.script.state = .suspended := by
  rcases step_cases stepped with turn | ⟨q, line, _, rfl⟩
  · exact turn_parks turn parked
  · have own := execute_isOwn table q line.toList
    generalize q.execute table line.toList = result at parked own
    rw [show result.2 = .waiting .parked from conclude_waiting parked] at own
    cases own

end Run

/-- A script that is parked and goes on has the message for it. -/
def Script.Called (s : Script) : Prop :=
  s.phase = .waiting .parked → s.state = .running → .resume ∈ s.controls

theorem Script.Handled.called {s s' : Script} (handled : s.Handled s') (called : s.Called) :
    s'.Called := by
  cases handled with
  | idle => exact called
  | stop =>
    unfold Script.stop
    split
    · exact called
    · intro _ running
      cases running
  | suspend =>
    unfold Script.suspend
    split
    · intro _ running
      cases running
    · exact called
  | resume =>
    unfold Script.resume
    split
    · exact fun _ _ => List.mem_append_right _ List.mem_cons_self
    · exact called
  | goto label =>
    unfold Script.requestGoto
    split
    · exact fun parked running => List.mem_append_left _ (called parked running)
    · exact called

theorem Engine.Reachable.called [Client σ] {e : Engine σ} (reachable : e.Reachable) {i : Nat}
    {s : Script} (found : e.scripts[i]? = some s) : s.Called := by
  refine reachable.invariant ?_ Script.Handled.called ?_ found
  · intro config name source arguments parked
    cases parked
  · intro table wake r r' stepped _ parked running
    cases running.symm.trans (Run.step_parks stepped parked)

/-! ### Resumptions in front -/

namespace Engine

/-- The moves without the first `n` steps of the script at an index. -/
def skip (i : Nat) : Nat → List (Move σ) → List (Move σ)
  | _, [] => []
  | 0, m :: rest => m :: rest
  | n + 1, m :: rest => if m.isStep i then skip i n rest else m :: skip i (n + 1) rest

variable [Client σ] {e : Engine σ} {i : Nat} {s : Script}

end Engine

end Questline
