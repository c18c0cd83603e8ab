import Mathlib
import Questline.Number.Binary64

/-! Doubles as they are calculated with, and the numbers that they stand for. The arithmetic of
doubles works on a mantissa and an exponent and rounds what comes out. A whole number of at most 53
bits needs no rounding, so arithmetic that ends in such a number is exact.

That a double is unpacked from what it is packed into (`Float.ofBits_toBits`, `pack_unpack`) is in no
smaller import than the whole library. -/
namespace Questline.Number

open Float.Model (Format UnpackedFloat totalExponent)
open Float.Model.UnpackedFloat

/-! ### The fields of a word -/

abbrev signField (word : BitVec 64) : BitVec 1 := @unpackSign Format.binary64 word

abbrev exponentField (word : BitVec 64) : BitVec 11 := @unpackExponent Format.binary64 word

abbrev fractionField (word : BitVec 64) : BitVec 52 := @unpackMantissa Format.binary64 word

theorem toNat_signField (word : BitVec 64) :
    (signField word).toNat = word.toNat / Nat.pow 2 63 := by
  have fits := word.isLt
  rw [signField, unpackSign, BitVec.toNat_cast, BitVec.extractLsb_toNat,
    Nat.shiftRight_eq_div_pow]
  apply Nat.mod_eq_of_lt
  change word.toNat / 2 ^ 63 < 2
  omega

theorem toNat_exponentField (word : BitVec 64) :
    (exponentField word).toNat = word.toNat / leastNormal % 2048 := by
  rw [exponentField, unpackExponent, BitVec.toNat_cast, BitVec.extractLsb_toNat,
    Nat.shiftRight_eq_div_pow]
  rfl

theorem toNat_fractionField (word : BitVec 64) :
    (fractionField word).toNat = word.toNat % leastNormal := by
  rw [fractionField, unpackMantissa, BitVec.toNat_cast, BitVec.extractLsb_toNat]
  rfl

/-- The first bit of the mantissa of a normal double is not written. -/
theorem toNat_implicit (fraction : BitVec 52) :
    (1#1 ++ fraction).toNat = fraction.toNat + leastNormal := by
  have joined := Nat.two_pow_add_eq_or_of_lt fraction.isLt 1
  rw [BitVec.toNat_append, Nat.shiftLeft_eq, leastNormal, Nat.pow_eq]
  simp at joined ⊢
  omega

def isNegative : Sign → Bool
  | .negative => true
  | .positive => false

theorem isNegative_ofBitVec (bit : BitVec 1) :
    isNegative (Sign.ofBitVec bit) = (bit.toNat == 1) := by
  revert bit
  decide

/-- What a double stands for while it is calculated with. -/
def Binary64.ofUnpacked : UnpackedFloat → Binary64
  | .notANumber => .nan
  | .infinity s => .infinite (isNegative s)
  | .zero s => .finite (isNegative s) 0 leastExponent
  | .finite s m e _ => .finite (isNegative s) m e

theorem ofFloat_eq (x : Float) : Binary64.ofFloat x = .ofUnpacked x.toModel.unpack := by
  let word := x.toModel.toBits.toBitVec
  have bits : x.toBits.toNat = word.toNat := rfl
  have full : exponentField word = -1#11 ↔ (exponentField word).toNat = 2047 :=
    BitVec.toNat_inj.symm
  have least : exponentField word = 0#11 ↔ (exponentField word).toNat = 0 := BitVec.toNat_inj.symm
  have blank : fractionField word = 0#52 ↔ (fractionField word).toNat = 0 := BitVec.toNat_inj.symm
  change _ = Binary64.ofUnpacked (unpack Format.binary64 word)
  unfold Binary64.ofFloat unpack
  dsimp only
  rw [bits, ← toNat_exponentField, ← toNat_fractionField, ← toNat_signField, ← isNegative_ofBitVec]
  simp only [← full, ← least, ← blank]
  split
  · split <;> rfl
  · split
    · next subnormal =>
      split
      · next zero =>
        rw [blank.mp zero]
        rfl
      · rw [Binary64.ofUnpacked, least.mp subnormal]
        rfl
    · rw [Binary64.ofUnpacked]
      congr 1
      · exact (toNat_implicit _).symm
      · change _ = ((exponentField word).toNat : Int) - 1075
        rw [leastExponent]
        omega

theorem unpack_bounds {word : BitVec 64} {s : Sign} {m : Nat} {e : Int} {positive : 0 < m}
    (unpacked : unpack Format.binary64 word = .finite s m e positive) :
    m < 2 ^ 53 ∧ (2 ^ 52 ≤ m ∨ e = leastExponent) := by
  have fraction : (fractionField word).toNat < 2 ^ 52 := BitVec.isLt _
  unfold unpack at unpacked
  dsimp only at unpacked
  split at unpacked
  · split at unpacked <;> cases unpacked
  · split at unpacked
    · next subnormal =>
      split at unpacked
      · cases unpacked
      · rw [subnormal] at unpacked
        cases unpacked
        exact ⟨by omega, .inr rfl⟩
    · have mantissa := toNat_implicit (fractionField word)
      rw [leastNormal, Nat.pow_eq] at mantissa
      obtain ⟨rfl, rfl, rfl⟩ := UnpackedFloat.finite.inj unpacked
      change (1#1 ++ fractionField word).toNat < _ ∧ (_ ≤ (1#1 ++ fractionField word).toNat ∨ _)
      exact ⟨by omega, .inl (by omega)⟩

/-! ### Packing -/

theorem eq_of_unpack {x y : Float} (same : x.toModel.unpack = y.toModel.unpack) : x = y := by
  have packed (x : Float) : x = .ofModel (.pack x.toModel.unpack) := (Float.ofBits_toBits x).symm
  rw [packed x, packed y, same]

theorem unpack_pack {s : Sign} {m : Nat} {e : Int} (positive : 0 < m) (normal : m.log2 = 52)
    (least : leastExponent ≤ e) (greatest : e ≤ 971) :
    unpack Format.binary64 (pack Format.binary64 (.finite s m e positive)) =
      .finite s m e positive := by
  rw [leastExponent] at least
  have bounds := (Nat.log2_eq_iff (Nat.ne_of_gt positive)).mp normal
  let exponent := BitVec.ofNat 11 (e + 1023 + 52).toNat
  have biased : exponent.toNat = (e + 1075).toNat := by
    rw [BitVec.toNat_ofNat]
    omega
  have notFull : exponent ≠ -1#11 := by
    rw [ne_eq, ← BitVec.toNat_inj, biased]
    change ¬ (e + 1075).toNat = 2047
    omega
  have notLeast : exponent ≠ 0#11 := by
    rw [ne_eq, ← BitVec.toNat_inj, biased]
    change ¬ (e + 1075).toNat = 0
    omega
  have mantissa : (1#1 ++ BitVec.ofNat 52 m).toNat = m := by
    rw [toNat_implicit, BitVec.toNat_ofNat, leastNormal, Nat.pow_eq]
    omega
  have packed : pack Format.binary64 (.finite s m e positive) =
      packComponents Format.binary64 s exponent (BitVec.ofNat 52 m) := by
    have inRange : ¬ 2048 ≤ (e + 1023 + 52).toNat + 1 := by omega
    unfold pack
    rw [normal]
    exact if_neg inRange
  rw [packed, unpack]
  simp only [unpackExponent_packComponents, unpackMantissa_packComponents,
    unpackSign_packComponents, Sign.ofBitVec_toBitVec, notFull, notLeast, if_false, biased,
    mantissa]
  congr 1
  change ((e + 1075).toNat : Int) - 1075 = e
  omega

/-! ### Numbers in binary notation -/

theorem log2_mul_pow {m : Nat} (positive : 0 < m) (k : Nat) :
    (m * 2 ^ k).log2 = m.log2 + k := by
  induction k with
  | zero => simp
  | succ k ih =>
    rw [Nat.pow_succ, ← Nat.mul_assoc, Nat.mul_comm, Nat.log2_two_mul (by positivity), ih]
    rfl

theorem value_iff {m n : Nat} {e : Int} :
    (m : ℚ) * 2 ^ e = n ↔ m * 2 ^ e.toNat = n * 2 ^ (-e).toNat := by
  obtain ⟨k, rfl | rfl⟩ := e.eq_nat_or_neg
  · rw [zpow_natCast]
    simp
    norm_cast
  · rw [zpow_neg, zpow_natCast, ← div_eq_mul_inv, div_eq_iff (by positivity)]
    simp
    norm_cast

theorem log2_add {m n : Nat} {e : Int} (positive : 0 < n) (value : (m : ℚ) * 2 ^ e = n) :
    (m.log2 : Int) + e = n.log2 := by
  have natural := value_iff.mp value
  have nonzero : 0 < m := by
    apply Nat.pos_of_ne_zero
    rintro rfl
    have scaled : 0 < n * 2 ^ (-e).toNat := by positivity
    omega
  have logs := congrArg Nat.log2 natural
  rw [log2_mul_pow nonzero, log2_mul_pow positive] at logs
  omega

theorem log2_le_of_small {n : Nat} (positive : 0 < n) (small : n < 2 ^ 53) : n.log2 ≤ 52 :=
  Nat.le_of_lt_succ ((Nat.log2_lt (Nat.ne_of_gt positive)).mpr small)

theorem filled_log2 {n : Nat} (positive : 0 < n) (small : n < 2 ^ 53) :
    (n * 2 ^ (52 - n.log2)).log2 = 52 := by
  have bits := log2_le_of_small positive small
  rw [log2_mul_pow positive]
  omega

theorem filled_value {n : Nat} (positive : 0 < n) (small : n < 2 ^ 53) :
    ((n * 2 ^ (52 - n.log2) : Nat) : ℚ) * 2 ^ ((n.log2 : Int) - 52) = n := by
  have bits := log2_le_of_small positive small
  rw [value_iff, show ((n.log2 : Int) - 52).toNat = 0 by omega,
    show (-((n.log2 : Int) - 52)).toNat = 52 - n.log2 by omega, Nat.pow_zero, Nat.mul_one]

theorem scaled_pos {n : Nat} (positive : 0 < n) (k : Nat) : 0 < n * 2 ^ k := by positivity

/-- A whole number with a sign, its mantissa filled up to 53 bits. -/
def exactly (s : Sign) (n : Nat) (positive : 0 < n) : UnpackedFloat :=
  .finite s (n * 2 ^ (52 - n.log2)) (n.log2 - 52) (scaled_pos positive _)

section

variable {s : Sign} {m n : Nat} {e : Int} (positive : 0 < n) (small : n < 2 ^ 53)
include small

theorem unpack_pack_exactly :
    unpack Format.binary64 (pack Format.binary64 (exactly s n positive)) =
      exactly s n positive := by
  have bits := log2_le_of_small positive small
  apply unpack_pack
  · exact filled_log2 positive small
  · rw [leastExponent]
    omega
  · omega

theorem finite_eq_exactly (nonzero : 0 < m) (normal : m.log2 = 52)
    (value : (m : ℚ) * 2 ^ e = n) : .finite s m e nonzero = exactly s n positive := by
  have bits := log2_le_of_small positive small
  have exponent := log2_add positive value
  have natural := value_iff.mp value
  obtain rfl : e = n.log2 - 52 := by omega
  rw [show ((n.log2 : Int) - 52).toNat = 0 by omega,
    show (-((n.log2 : Int) - 52)).toNat = 52 - n.log2 by omega, Nat.pow_zero,
    Nat.mul_one] at natural
  subst natural
  rfl

/-! ### Rounding -/

omit small in
theorem shiftRight_exact (m k : Nat) :
    ExtendedMantissa.ofMantissaAndAccuracy (m * 2 ^ k) .exact >>> k =
      ExtendedMantissa.ofMantissaAndAccuracy m .exact := by
  induction k generalizing m with
  | zero => rw [Nat.pow_zero, Nat.mul_one]; rfl
  | succ k ih =>
    change ExtendedMantissa.shiftRightOne
      (ExtendedMantissa.ofMantissaAndAccuracy (m * 2 ^ (k + 1)) .exact >>> k) = _
    rw [show m * 2 ^ (k + 1) = (m * 2) * 2 ^ k by ring, ih]
    simp [ExtendedMantissa.shiftRightOne, ExtendedMantissa.ofMantissaAndAccuracy]

include positive

theorem targetExponent_eq (exponent : (m.log2 : Int) + e = n.log2) :
    Format.binary64.targetExponent (totalExponent m e) = n.log2 - 52 := by
  have bits := log2_le_of_small positive small
  have least : Format.binary64.minExponent = -1074 := by decide
  have precision : Format.binary64.mantissaBits = 53 := rfl
  rw [Format.targetExponent, totalExponent, least, precision]
  omega

/-- Nothing but zeros is shifted out of the mantissa of a whole number of at most 53 bits. -/
theorem roundWithAccuracy_exactly (value : (m : ℚ) * 2 ^ e = n) (fine : e ≤ n.log2 - 52) :
    roundWithAccuracy Format.binary64 s m e .exact = exactly s n positive := by
  have bits := log2_le_of_small positive small
  obtain ⟨k, rfl⟩ : ∃ k : Nat, e = n.log2 - 52 - k := ⟨(n.log2 - 52 - e).toNat, by omega⟩
  have scaled : m = n * 2 ^ (52 - n.log2) * 2 ^ k := by
    have natural := value_iff.mp value
    rw [show ((n.log2 : Int) - 52 - k).toNat = 0 by omega,
      show (-((n.log2 : Int) - 52 - k)).toNat = 52 - n.log2 + k by omega, Nat.pow_zero,
      Nat.mul_one] at natural
    rw [natural, Nat.pow_add, Nat.mul_assoc]
  have filled : ((n * 2 ^ (52 - n.log2)).log2 : Int) + (n.log2 - 52) = n.log2 := by
    rw [filled_log2 positive small]
    omega
  have target := targetExponent_eq positive small (log2_add positive value)
  have again := targetExponent_eq positive small filled
  have shift : ((n.log2 : Int) - 52 - (n.log2 - 52 - k)).toNat = k := by omega
  have unshifted (mantissa : ExtendedMantissa) : mantissa >>> 0 = mantissa := rfl
  have nonzero := Nat.ne_of_gt (scaled_pos positive (52 - n.log2))
  rw [roundWithAccuracy, shiftToTargetExponent, target, shiftToExponent, shift, scaled,
    shiftRight_exact]
  simp only [ExtendedMantissa.roundedMantissa, ExtendedMantissa.accuracy,
    ExtendedMantissa.ofMantissaAndAccuracy, Accuracy.roundToNearestEven, shiftToTargetExponent,
    Int.sub_add_cancel, again, shiftToExponent, Int.sub_self, Int.toNat_zero, unshifted,
    nonzero, dif_neg, not_false_eq_true]
  rw [exactly]
  congr 1
  omega

theorem round_exactly (value : (m : ℚ) * 2 ^ e = n) :
    Float.Model.UnpackedFloat.round Format.binary64 s m e = exactly s n positive := by
  have target := targetExponent_eq positive small (log2_add positive value)
  rw [Float.Model.UnpackedFloat.round, target, decreaseExponent]
  apply roundWithAccuracy_exactly positive small
  · rw [Nat.shiftLeft_eq, Nat.cast_mul, Nat.cast_pow, Nat.cast_ofNat, zpow_sub₀ two_ne_zero,
      zpow_natCast, ← value]
    field_simp
  · omega

end

end Questline.Number
