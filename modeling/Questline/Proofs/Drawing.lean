import Questline.MemoryClient
import Questline.Script.Commands

/-! Random numbers come to an end. The counter of the generator meets every word before it is back
where it began, and the word drawn at zero lies below every threshold. So finitely many draws are
rejected, whatever the range, and the number lies in it. -/
namespace Questline.Random

/-! ### The counter -/

def stepInverse : UInt32 := 0xdc58aa5d

theorem stepInverse_mul_step : stepInverse * step = 1 := by decide

def counterAfter (state : UInt32) (draws : Nat) : UInt32 := state + UInt32.ofNat draws * step

theorem counterAfter_one (state : UInt32) : counterAfter state 1 = (draw state).2 := by
  simp [counterAfter, draw]

theorem counterAfter_draw (state : UInt32) (draws : Nat) :
    counterAfter (draw state).2 draws = counterAfter state (draws + 1) := by
  simp only [counterAfter, draw, UInt32.ofNat_add]
  grind

theorem counter_visits (state target : UInt32) :
    ∃ draws < wordCount, counterAfter state (draws + 1) = target := by
  have distance : ((target - state) * stepInverse - 1).toNat < wordCount := UInt32.toNat_lt _
  refine ⟨_, distance, ?_⟩
  have undone := stepInverse_mul_step
  simp only [counterAfter, UInt32.ofNat_add, UInt32.ofNat_toNat]
  grind

theorem mix_zero : mix 0 = 0 := by decide

/-! ### The draws -/

/-- Drawing ends with a word below the limit and the state after it, and the words before it, which
are counted, were not below the limit. -/
inductive Ends (limit : Nat) : (rejected : Nat) → (state : UInt32) → UInt32 × UInt32 → Prop
  | accept {state : UInt32} (accepted : (draw state).1.toNat < limit) :
      Ends limit 0 state (draw state)
  | reject {rejected : Nat} {state : UInt32} {result : UInt32 × UInt32}
      (above : limit ≤ (draw state).1.toNat) (later : Ends limit rejected (draw state).2 result) :
      Ends limit (rejected + 1) state result

/-- Some acceptable word is among the next ones, so drawing ends with it or with one before it. -/
theorem ends_of_acceptable {limit draws fuel : Nat} {state : UInt32} (enough : draws < fuel)
    (acceptable : (mix (counterAfter state (draws + 1))).toNat < limit) :
    ∃ rejected result, rejected ≤ draws ∧ Ends limit rejected state result ∧
      drawBelow limit fuel state = some result := by
  induction draws generalizing fuel state with
  | zero =>
    obtain ⟨fuel, rfl⟩ := Nat.exists_eq_add_one_of_ne_zero (Nat.ne_of_gt enough)
    have accepted : (draw state).1.toNat < limit := by
      rwa [counterAfter_one] at acceptable
    exact ⟨0, draw state, Nat.le_refl 0, .accept accepted, by simp [drawBelow, accepted]⟩
  | succ draws ih =>
    obtain ⟨fuel, rfl⟩ := Nat.exists_eq_add_one_of_ne_zero (Nat.ne_of_gt (Nat.zero_lt_of_lt enough))
    by_cases accepted : (draw state).1.toNat < limit
    · exact ⟨0, draw state, Nat.zero_le _, .accept accepted, by simp [drawBelow, accepted]⟩
    · rw [← counterAfter_draw] at acceptable
      obtain ⟨rejected, result, few, ends, drawn⟩ := ih (Nat.lt_of_succ_lt_succ enough) acceptable
      refine ⟨rejected + 1, result, Nat.succ_le_succ few, ?_, ?_⟩
      · exact .reject (Nat.le_of_not_lt accepted) ends
      · simp [drawBelow, accepted, drawn]

theorem drawing_ends {limit : Nat} (positive : 0 < limit) (state : UInt32) :
    ∃ rejected result, rejected < wordCount ∧ Ends limit rejected state result ∧
      drawBelow limit wordCount state = some result := by
  obtain ⟨draws, enough, zero⟩ := counter_visits state 0
  have acceptable : (mix (counterAfter state (draws + 1))).toNat < limit := by
    rw [zero, mix_zero]
    exact positive
  obtain ⟨rejected, result, few, found⟩ := ends_of_acceptable enough acceptable
  exact ⟨rejected, result, Nat.lt_of_le_of_lt few enough, found⟩

/-! ### Numbers below a bound -/

theorem threshold_pos {bound : Nat} (positive : 0 < bound) (fits : bound ≤ wordCount) :
    0 < threshold bound :=
  Nat.mul_pos (Nat.div_pos fits positive) positive

theorem threshold_le (bound : Nat) : threshold bound ≤ wordCount := Nat.div_mul_le_self _ _

theorem below_of_drawn {bound : Nat} {state word next : UInt32}
    (drawn : drawBelow (threshold bound) wordCount state = some (word, next)) :
    below bound state = (word.toNat % bound, next) := by
  simp [below, drawn]

theorem below_ends {bound : Nat} (positive : 0 < bound) (fits : bound ≤ wordCount)
    (state : UInt32) :
    ∃ rejected word next, rejected < wordCount ∧
      Ends (threshold bound) rejected state (word, next) ∧
      drawBelow (threshold bound) wordCount state = some (word, next) ∧
      below bound state = (word.toNat % bound, next) := by
  obtain ⟨rejected, ⟨word, next⟩, few, ends, drawn⟩ :=
    drawing_ends (threshold_pos positive fits) state
  exact ⟨rejected, word, next, few, ends, drawn, below_of_drawn drawn⟩

theorem below_lt {bound : Nat} (positive : 0 < bound) (fits : bound ≤ wordCount)
    (state : UInt32) : (below bound state).1 < bound := by
  obtain ⟨_, word, next, _, _, _, result⟩ := below_ends positive fits state
  rw [result]
  exact Nat.mod_lt _ positive

/-! ### Numbers in a range -/

theorem inRange_bounds {low high : Nat} (ordered : low ≤ high) (word : high < wordCount)
    (state : UInt32) :
    low ≤ (inRange low high state).1 ∧ (inRange low high state).1 ≤ high := by
  unfold inRange
  split
  · next fits =>
    have positive : 0 < high - low + 1 := by omega
    have small := below_lt positive (Nat.le_of_lt fits) state
    dsimp only
    omega
  · -- The range holds every word, so it begins at zero and ends at the last one.
    have drawn : (draw state).1.toNat < wordCount := UInt32.toNat_lt _
    dsimp only
    omega

/-! ### The arithmetic of a machine -/

def fit? (bits n : Nat) : Option Nat := if n < Nat.pow 2 bits then some n else none

def divisor? (n : Nat) : Option Nat := if n = 0 then none else some n

/-- A number in a range as a machine calculates it, in words of 32 bits and, for the threshold, of
64. There is none where a difference is negative, a result does not fit into its word or a divisor
is zero. -/
def inRange? (low high : Nat) (state : UInt32) : Option (Nat × UInt32) :=
  if high < low then none
  else
    (fit? 32 (high - low + 1)).elim (some ((draw state).1.toNat, (draw state).2)) fun span =>
      (divisor? span).bind fun divisor =>
        (fit? 64 (wordCount / divisor * span)).bind fun limit =>
          (drawBelow limit wordCount state).bind fun drawn =>
            (fit? 32 (low + drawn.1.toNat % divisor)).map fun value => (value, drawn.2)

theorem inRange?_eq {low high : Nat} (ordered : low ≤ high) (word : high < wordCount)
    (state : UInt32) : inRange? low high state = some (inRange low high state) := by
  have bounds := inRange_bounds ordered word state
  have forward : ¬ high < low := by omega
  unfold inRange at bounds ⊢
  by_cases fits : high - low + 1 < wordCount
  · have positive : 0 < high - low + 1 := by omega
    obtain ⟨_, word, next, _, _, drawn, result⟩ := below_ends positive (Nat.le_of_lt fits) state
    simp only [if_pos fits, result] at bounds
    have span : fit? 32 (high - low + 1) = some (high - low + 1) := if_pos fits
    have divisor : divisor? (high - low + 1) = some (high - low + 1) := if_neg (by omega)
    have limit : fit? 64 (threshold (high - low + 1)) = some (threshold (high - low + 1)) :=
      if_pos (Nat.lt_of_le_of_lt (threshold_le _) (by decide))
    have sum : fit? 32 (low + word.toNat % (high - low + 1)) =
        some (low + word.toNat % (high - low + 1)) := by
      apply if_pos
      change _ < wordCount
      omega
    rw [threshold] at limit drawn
    rw [inRange?, if_neg forward, span, Option.elim_some, divisor, Option.bind_some, limit,
      Option.bind_some, drawn, Option.bind_some, sum, Option.map_some, if_pos fits, result]
  · have span : fit? 32 (high - low + 1) = none := if_neg fits
    rw [inRange?, if_neg forward, span, Option.elim_none, if_neg fits]

end Questline.Random

namespace Questline

variable {σ : Type}

theorem Commands.random_eq (r : Run σ) {arguments lowText highText : String} {low high : Nat}
    (numerals : Arguments.twoNumerals? arguments = some (lowText, highText))
    (lowest : Arguments.word32? lowText = some low)
    (highest : Arguments.word32? highText = some high) (ordered : low ≤ high) :
    Commands.random r arguments =
      ({ r with script := { r.script with
          random := (Random.inRange low high r.script.random).2 } }.setSpecial randomName
        (.value (.number (Float.ofNat (Random.inRange low high r.script.random).1))), .done) := by
  have forward : ¬ high < low := by omega
  simp only [random, numerals, lowest, highest, if_neg forward]

theorem Run.get_setSpecial (r : Run σ) (around : Surroundings) (name : String) (value : Value) :
    (r.setSpecial name (.value value)).script.vars.get? around name = some value := by
  simp [Run.setSpecial, Run.setVars, Variables.get?, Variables.setSpecial, Variables.readSpecial]

namespace Random

/-- The counter visits every word, so drawing ends whatever the bound, and the number that is made
of the last word lies below the bound. A range gives a number in it, whichever words are its ends,
and no step of the calculation leaves its word or divides by zero. This number is what the command
sets. -/
theorem random_ends_in_range [Client σ] (state bound low high : UInt32) (positive : 0 < bound)
    (ordered : low ≤ high) :
    (∀ target, ∃ draws < wordCount, counterAfter state (draws + 1) = target) ∧
    (∃ rejected word next, rejected < wordCount ∧
      Ends (threshold bound.toNat) rejected state (word, next) ∧
      below bound.toNat state = (word.toNat % bound.toNat, next) ∧
      (below bound.toNat state).1 < bound.toNat) ∧
    (inRange? low.toNat high.toNat state = some (inRange low.toNat high.toNat state) ∧
      low.toNat ≤ (inRange low.toNat high.toNat state).1 ∧
      (inRange low.toNat high.toNat state).1 ≤ high.toNat) ∧
    ∀ (r : Run σ) (arguments lowText highText : String), r.script.random = state →
      Arguments.twoNumerals? arguments = some (lowText, highText) →
      Arguments.word32? lowText = some low.toNat → Arguments.word32? highText = some high.toNat →
      (Commands.random r arguments).2 = .done ∧
        (Commands.random r arguments).1.script.vars.get? r.around Commands.randomName =
          some (.number (Float.ofNat (inRange low.toNat high.toNat state).1)) := by
  have word : high.toNat < wordCount := UInt32.toNat_lt high
  have fits : bound.toNat ≤ wordCount := Nat.le_of_lt (UInt32.toNat_lt bound)
  refine ⟨counter_visits state, ?_,
    ⟨inRange?_eq ordered word state, inRange_bounds ordered word state⟩, ?_⟩
  · obtain ⟨rejected, word, next, few, ends, _, result⟩ := below_ends positive fits state
    exact ⟨rejected, word, next, few, ends, result, below_lt positive fits state⟩
  · rintro r arguments lowText highText rfl numerals lowest highest
    rw [Commands.random_eq r numerals lowest highest ordered]
    exact ⟨rfl, Run.get_setSpecial _ _ _ _⟩

/-- A bound that rejects every second word, a state at which the next word is one of them, and the
range of all words. -/
theorem random_ends_in_range_stubborn :
    (0 : UInt32) < 0x80000001 ∧ (0 : UInt32) ≤ 0xFFFFFFFF ∧
    (∃ rejected word next, 0 < rejected ∧ rejected < wordCount ∧
      Ends (threshold (0x80000001 : UInt32).toNat) rejected 545 (word, next) ∧
      (below (0x80000001 : UInt32).toNat 545).1 < (0x80000001 : UInt32).toNat) ∧
    (inRange (0 : UInt32).toNat (0xFFFFFFFF : UInt32).toNat 545).1 ≤
      (0xFFFFFFFF : UInt32).toNat := by
  obtain ⟨_, ⟨rejected, word, next, few, ends, _, small⟩, ⟨_, _, least⟩, _⟩ :=
    @random_ends_in_range MemoryClient _ 545 0x80000001 0 0xFFFFFFFF (by decide) (by decide)
  refine ⟨by decide, by decide, ⟨rejected, word, next, ?_, few, ends, small⟩, least⟩
  cases ends with
  | accept accepted => exact absurd accepted (by decide)
  | reject => exact Nat.succ_pos _

end Random

end Questline
