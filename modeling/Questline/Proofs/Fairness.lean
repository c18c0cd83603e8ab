import Mathlib.Data.Int.CardIntervalMod
import Mathlib.Data.Set.Card
import Questline.Proofs.Drawing

/-! No number of a range is preferred. Words at or above the threshold are drawn again, and those
below it leave each remainder equally often, so that every number of a range stands for equally many
words. -/
namespace Questline.Random

/-! ### The threshold -/

theorem bound_dvd_threshold (bound : Nat) : bound ∣ threshold bound := Dvd.intro_left _ rfl

/-- The words that are rejected are fewer than the bound, and those that are accepted are no fewer
than it, so more than half of all words are accepted. -/
theorem half_lt_threshold {bound : Nat} (positive : 0 < bound) (fits : bound < wordCount) :
    Nat.pow 2 31 < threshold bound := by
  have whole : threshold bound + wordCount % bound = wordCount := Nat.div_add_mod' _ _
  have rejected : wordCount % bound < bound := Nat.mod_lt _ positive
  have accepted : bound ≤ threshold bound :=
    Nat.le_mul_of_pos_left bound (Nat.div_pos (Nat.le_of_lt fits) positive)
  have half : wordCount = 2 * Nat.pow 2 31 := by decide
  omega

def longThreshold (bound : UInt32) : UInt64 :=
  ((0xFFFFFFFF : UInt32).toUInt64 + 1) / bound.toUInt64 * bound.toUInt64

theorem toNat_longThreshold (bound : UInt32) :
    (longThreshold bound).toNat = threshold bound.toNat := by
  have words : ((0xFFFFFFFF : UInt32).toUInt64 + 1).toNat = wordCount := by decide
  have fits : threshold bound.toNat < 2 ^ 64 := Nat.lt_of_le_of_lt (threshold_le _) (by decide)
  rw [longThreshold, UInt64.toNat_mul, UInt64.toNat_div, words, UInt32.toNat_toUInt64]
  exact Nat.mod_eq_of_lt fits

/-! ### Accepted words -/

/-- The words that are accepted for a bound and leave a remainder. -/
def accepted (bound remainder : Nat) : Set UInt32 :=
  {word | word.toNat < threshold bound ∧ word.toNat % bound = remainder}

theorem toNat_image_accepted (bound remainder : Nat) :
    UInt32.toNat '' accepted bound remainder =
      (Finset.range (threshold bound)).filter fun n => n % bound = remainder := by
  ext n
  simp only [accepted, Set.mem_image, Set.mem_ofPred_eq, Finset.coe_filter, Finset.mem_range]
  constructor
  · rintro ⟨word, below, rfl⟩
    exact below
  · intro below
    have word : n < wordCount := Nat.lt_of_lt_of_le below.1 (threshold_le bound)
    have same : (UInt32.ofNat n).toNat = n := UInt32.toNat_ofNat_of_lt' word
    exact ⟨UInt32.ofNat n, by rw [same]; exact below, same⟩

theorem ncard_accepted {bound remainder : Nat} (small : remainder < bound) :
    (accepted bound remainder).ncard = wordCount / bound := by
  have positive : 0 < bound := Nat.zero_lt_of_lt small
  have injective : Function.Injective UInt32.toNat := fun _ _ => UInt32.toNat_inj.mp
  have congruent : (fun n => n % bound = remainder) = (· ≡ remainder [MOD bound]) := by
    funext n
    rw [Nat.ModEq, Nat.mod_eq_of_lt small]
  have full : threshold bound % bound = 0 := Nat.mod_eq_zero_of_dvd (bound_dvd_threshold bound)
  have blocks : threshold bound / bound = wordCount / bound := Nat.mul_div_cancel _ positive
  rw [← Set.ncard_image_of_injective _ injective, toNat_image_accepted, Set.ncard_coe_finset]
  simp only [congruent]
  rw [← Nat.count_eq_card_filter_range, Nat.count_modEq_card _ positive, full, blocks]
  simp

/-! ### Numbers in a range -/

/-- The number of a range that a word stands for, if it is accepted. -/
def reading? (low high : Nat) (word : UInt32) : Option Nat :=
  if word.toNat < threshold (high - low + 1) then some (low + word.toNat % (high - low + 1))
  else none

theorem threshold_wordCount : threshold wordCount = wordCount := by decide

theorem Ends.isBelow {limit rejected : Nat} {state : UInt32} {result : UInt32 × UInt32}
    (ends : Ends limit rejected state result) : result.1.toNat < limit := by
  induction ends with
  | accept accepted => exact accepted
  | reject _ _ ih => exact ih

/-- The number that is drawn from a range is the one that the first accepted word stands for. -/
theorem inRange_reading {low high : Nat} (ordered : low ≤ high) (word : high < wordCount)
    (state : UInt32) :
    ∃ rejected drawn next, Ends (threshold (high - low + 1)) rejected state (drawn, next) ∧
      reading? low high drawn = some (inRange low high state).1 := by
  have positive : 0 < high - low + 1 := by omega
  by_cases fits : high - low + 1 < wordCount
  · obtain ⟨rejected, drawn, next, _, ends, _, result⟩ :=
      below_ends positive (Nat.le_of_lt fits) state
    refine ⟨rejected, drawn, next, ends, ?_⟩
    rw [reading?, if_pos ends.isBelow, inRange, if_pos fits, result]
  · -- The range holds every word, so none is rejected and each stands for itself.
    have all : high - low + 1 = wordCount := by omega
    have first : low = 0 := by omega
    have below : (draw state).1.toNat < wordCount := UInt32.toNat_lt _
    refine ⟨0, (draw state).1, (draw state).2, .accept ?_, ?_⟩
    · rw [all, threshold_wordCount]
      exact below
    · rw [reading?, inRange, if_neg fits, all, threshold_wordCount, if_pos below,
        Nat.mod_eq_of_lt below, first, Nat.zero_add]

theorem ncard_reading {low high value : Nat} (inside : low ≤ value ∧ value ≤ high) :
    {word | reading? low high word = some value}.ncard = wordCount / (high - low + 1) := by
  have small : value - low < high - low + 1 := by omega
  have same : {word | reading? low high word = some value} =
      accepted (high - low + 1) (value - low) := by
    ext word
    simp only [reading?, accepted, Set.mem_ofPred_eq]
    split
    · next below =>
      simp only [Option.some.injEq, below, true_and]
      omega
    · next above => simp [above]
  rw [same]
  exact ncard_accepted small

/-- Rejection leaves no number preferred. The threshold of a bound is a multiple of it, more than
half of all words lie below it, and 64 bits are enough to calculate it. The words below it leave
each remainder equally often, as often as the bound goes into the number of words. So all numbers of
a range stand for equally many words, and what is drawn is the number that the first accepted word
stands for. -/
theorem rejection_prefers_none (bound low high : UInt32) (positive : 0 < bound)
    (ordered : low ≤ high) :
    (bound.toNat ∣ threshold bound.toNat ∧ 2 ^ 31 < threshold bound.toNat ∧
      threshold bound.toNat ≤ 2 ^ 32 ∧ (longThreshold bound).toNat = threshold bound.toNat) ∧
    (∀ remainder < bound.toNat,
      {word : UInt32 | word.toNat < threshold bound.toNat ∧
        word.toNat % bound.toNat = remainder}.ncard = 2 ^ 32 / bound.toNat) ∧
    (∀ state, ∃ rejected word next, Ends (threshold bound.toNat) rejected state (word, next) ∧
      below bound.toNat state = (word.toNat % bound.toNat, next)) ∧
    (∀ value, low.toNat ≤ value → value ≤ high.toNat →
      {word | reading? low.toNat high.toNat word = some value}.ncard =
        2 ^ 32 / (high.toNat - low.toNat + 1)) ∧
    ∀ state, ∃ rejected word next,
      Ends (threshold (high.toNat - low.toNat + 1)) rejected state (word, next) ∧
        reading? low.toNat high.toNat word = some (inRange low.toNat high.toNat state).1 := by
  have fits : bound.toNat < wordCount := UInt32.toNat_lt bound
  refine ⟨⟨bound_dvd_threshold _, half_lt_threshold positive fits, threshold_le _,
    toNat_longThreshold bound⟩, ?_, ?_, ?_, ?_⟩
  · intro remainder small
    exact ncard_accepted small
  · intro state
    obtain ⟨rejected, word, next, _, ends, _, result⟩ :=
      below_ends positive (Nat.le_of_lt fits) state
    exact ⟨rejected, word, next, ends, result⟩
  · intro value above below
    exact ncard_reading ⟨above, below⟩
  · intro state
    exact inRange_reading ordered (UInt32.toNat_lt high) state

/-- A bound at which nearly every second word is rejected, and a range at the end of the words. -/
theorem rejection_prefers_none_stubborn :
    (0 : UInt32) < 0x80000001 ∧ (0xFFFFFFFD : UInt32) ≤ 0xFFFFFFFF ∧
    {word : UInt32 | word.toNat < threshold 0x80000001 ∧ word.toNat % 0x80000001 = 7}.ncard = 1 ∧
    {word | reading? 0xFFFFFFFD 0xFFFFFFFF word = some 0xFFFFFFFE}.ncard = 1431655765 := by
  obtain ⟨_, remainders, _, values, _⟩ :=
    rejection_prefers_none 0x80000001 0xFFFFFFFD 0xFFFFFFFF (by decide) (by decide)
  exact ⟨by decide, by decide, remainders 7 (by decide), values 0xFFFFFFFE (by decide) (by decide)⟩

end Questline.Random
