import Questline.Script.Commands

/-! How the commands end. Only a few can make a script wait; every other one is over when its step
is, whether it fails or not. -/
namespace Questline

/-- Neither in a wait nor cut short. -/
def Outcome.isOver : Outcome → Bool
  | done | fault _ => true
  | _ => false

def Outcome.wait? : Outcome → Option Wait
  | waiting w => some w
  | _ => none

/-- The commands that can make a script wait. -/
def Builtin.waits : Builtin → Bool
  | matchWait | move | nextRoom | pause | wait | waitFor | waitForPattern => true
  | _ => false

namespace Commands

variable {σ : Type}

def Over (result : Run σ × Outcome) : Prop := result.2.isOver = true

variable (q : Run σ) (arguments : String)

theorem attempt_over (change : Except Fault (Run σ)) : Over (attempt q change) := by
  cases change <;> rfl

theorem shiftFrom_over (p : Positions σ) (fuel position : Nat) (moved : List String) (q : Run σ) :
    Over (shiftFrom p fuel position moved q) := by
  induction fuel generalizing position moved q with
  | zero => rfl
  | succ fuel ih =>
    unfold shiftFrom
    simp only
    split
    · split
      · rfl
      · exact ih _ _ _
    · rfl

theorem debugLevel_over : Over (debugLevel q arguments) := by
  unfold debugLevel
  split <;> rfl

theorem delay_over : Over (delay q arguments) := by
  unfold delay
  simp only
  split <;> rfl

theorem deleteLocal_over : Over (deleteLocal q arguments) := by
  unfold deleteLocal
  simp only
  split <;> rfl

theorem deleteVariable_over : Over (deleteVariable q arguments) := by
  unfold deleteVariable
  simp only
  split <;> rfl

theorem setLocal_over : Over (setLocal q arguments) := by
  unfold setLocal
  split <;> rfl

theorem matchText_over : Over (matchText q arguments) := by
  unfold matchText
  split <;> rfl

theorem gosub_over : Over (gosub q arguments) := by
  unfold gosub
  split
  · rfl
  · exact attempt_over _ _

theorem goto_over : Over (goto q arguments) := by
  unfold goto
  simp only
  split
  · rfl
  · exact attempt_over _ _

theorem setVariable_over : Over (setVariable q arguments) := by
  unfold setVariable
  split
  · rfl
  · exact attempt_over _ _

theorem random_over : Over (random q arguments) := by
  unfold random
  split
  · rfl
  · split
    · rfl
    · rfl
    · split <;> rfl

theorem timer_over : Over (timer q arguments) := by
  unfold timer
  split
  · rfl
  · simp only
    split
    · rfl
    · split <;> rfl

theorem matchPattern_over : Over (matchPattern q arguments) := by
  unfold matchPattern
  split
  · rfl
  · split <;> rfl

variable [Client σ]

theorem operate_over (target : String) (words : List String) : Over (operate q target words) := by
  unfold operate
  split
  · rfl
  · simp only
    split
    · rfl
    · split
      · exact attempt_over q _
      · split
        · rfl
        · split
          · rfl
          · exact attempt_over _ _

theorem put_over : Over (put q arguments) := by
  unfold put
  simp only
  split <;> rfl

theorem run_over : Over (run q arguments) := by
  unfold run
  split
  · rfl
  · split <;> rfl

theorem playSound_over : Over (playSound q arguments) := by
  unfold playSound
  simp only
  split
  · rfl
  · split <;> rfl

theorem counter_over : Over (counter q arguments) := by
  unfold counter
  split
  · rfl
  · exact operate_over q _ _

theorem math_over : Over (math q arguments) := by
  unfold math
  split
  · rfl
  · exact operate_over q _ _

theorem perform_over (command : Builtin) (brief : command.waits = false) :
    Over (perform q arguments command) := by
  cases command with
  | matchWait | move | nextRoom | pause | wait | waitFor | waitForPattern => cases brief
  | debug | echo | exit | save | ifSet _ | otherwise => rfl
  | counter => exact counter_over q arguments
  | math => exact math_over q arguments
  | debugLevel => exact debugLevel_over q arguments
  | delay => exact delay_over q arguments
  | deleteLocal => exact deleteLocal_over q arguments
  | deleteVariable => exact deleteVariable_over q arguments
  | setLocal => exact setLocal_over q arguments
  | matchText => exact matchText_over q arguments
  | shift => exact shiftFrom_over _ _ _ _ _
  | returnBack => exact attempt_over _ _
  | gosub => exact gosub_over q arguments
  | goto => exact goto_over q arguments
  | setVariable => exact setVariable_over q arguments
  | matchPattern => exact matchPattern_over q arguments
  | random => exact random_over q arguments
  | timer => exact timer_over q arguments
  | put => exact put_over q arguments
  | run => exact run_over q arguments
  | playSound => exact playSound_over q arguments

end Commands

end Questline
