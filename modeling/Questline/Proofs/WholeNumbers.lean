import Questline.Number.Binary64
import Questline.Proofs.Doubles

/-! Whole numbers among the doubles. Arithmetic on them is exact as long as its result is a whole
number of at most 53 bits, and a quotient of natural numbers that comes out even is read as the
double that it is. -/
namespace Questline.Number

open Float.Model (Format UnpackedFloat totalExponent)
open Float.Model.UnpackedFloat

def Binary64.value? : Binary64 → Option ℚ
  | .finite negative m q => some (if negative then -(m * 2 ^ q) else m * 2 ^ q)
  | _ => none

/-- The value of the double is the whole number. Zero is the value of two doubles. -/
def Whole (x : Float) (z : ℤ) : Prop := (Binary64.ofFloat x).value? = some (z : ℚ)

inductive IsWhole : UnpackedFloat → ℤ → Prop
  | zero (s : Sign) : IsWhole (.zero s) 0
  | finite (s : Sign) {m n : ℕ} {e : ℤ} {positive : 0 < m} (normal : m.log2 = 52)
      (value : (m : ℚ) * 2 ^ e = n) : IsWhole (.finite s m e positive) (s.apply n)

theorem normal_of_value {m n : ℕ} {e : ℤ} (positive : 0 < m) (fits : m < 2 ^ 53)
    (shape : 2 ^ 52 ≤ m ∨ e = leastExponent) (value : (m : ℚ) * 2 ^ e = n) : m.log2 = 52 := by
  rcases shape with low | rfl
  · exact (Nat.log2_eq_iff (Nat.ne_of_gt positive)).mpr ⟨low, fits⟩
  · -- a subnormal double lies below one
    have natural := value_iff.mp value
    rw [leastExponent, show (-1074 : ℤ).toNat = 0 from rfl, Nat.pow_zero, Nat.mul_one] at natural
    have whole : 0 < n := by
      apply Nat.pos_of_ne_zero
      rintro rfl
      omega
    have large : 2 ^ 53 ≤ n * 2 ^ (- -1074 : ℤ).toNat :=
      Nat.le_trans (Nat.pow_le_pow_right (by decide) (by decide)) (Nat.le_mul_of_pos_left _ whole)
    omega

theorem apply_eq (s : Sign) (n : ℤ) : s.apply n = if isNegative s then -n else n := by
  cases s <;> rfl

theorem cast_apply (s : Sign) (n : ℤ) :
    ((s.apply n : ℤ) : ℚ) = if isNegative s then -(n : ℚ) else n := by
  rw [apply_eq]
  push_cast
  rfl

theorem signed_value {negative : Bool} {value : ℚ} {z : ℤ} (nonneg : 0 ≤ value)
    (signed : (if negative then -value else value) = z) :
    z = (if negative then -(z.natAbs : ℤ) else z.natAbs) ∧ value = z.natAbs := by
  cases negative with
  | false =>
    have whole : value = z := signed
    have above : 0 ≤ z := by exact_mod_cast whole ▸ nonneg
    have magnitude : (z.natAbs : ℤ) = z := Int.natAbs_of_nonneg above
    exact ⟨magnitude.symm, by rw [whole, ← Int.cast_natCast, magnitude]⟩
  | true =>
    have whole : value = -z := neg_eq_iff_eq_neg.mp signed
    have below : z ≤ 0 := by
      have opposite : (0 : ℚ) ≤ -z := whole ▸ nonneg
      exact_mod_cast neg_nonneg.mp opposite
    have magnitude : (z.natAbs : ℤ) = -z := Int.ofNat_natAbs_of_nonpos below
    exact ⟨by rw [if_pos rfl, magnitude, Int.neg_neg],
      by rw [whole, ← Int.cast_natCast, magnitude, Int.cast_neg]⟩

theorem Whole.finite {x : Float} {z : ℤ} (whole : Whole x z) :
    ∃ negative m q, Binary64.ofFloat x = .finite negative m q ∧
      z = (if negative then -(z.natAbs : ℤ) else z.natAbs) ∧ (m : ℚ) * 2 ^ q = z.natAbs := by
  rw [Whole] at whole
  cases value : Binary64.ofFloat x with
  | nan => simp [value, Binary64.value?] at whole
  | infinite negative => simp [value, Binary64.value?] at whole
  | finite negative m q =>
    rw [value, Binary64.value?, Option.some.injEq] at whole
    exact ⟨negative, m, q, rfl, signed_value (by positivity) whole⟩

theorem value?_of_isWhole {u : UnpackedFloat} {z : ℤ} (whole : IsWhole u z) :
    (Binary64.ofUnpacked u).value? = some (z : ℚ) := by
  cases whole with
  | zero s => simp [Binary64.ofUnpacked, Binary64.value?]
  | finite s normal value =>
    rw [cast_apply, Int.cast_natCast, ← value]
    rfl

theorem whole_iff {x : Float} {z : ℤ} : Whole x z ↔ IsWhole x.toModel.unpack z := by
  rw [Whole, ofFloat_eq]
  refine ⟨fun value => ?_, value?_of_isWhole⟩
  cases unpacked : x.toModel.unpack with
  | notANumber => simp [unpacked, Binary64.ofUnpacked, Binary64.value?] at value
  | infinity s => simp [unpacked, Binary64.ofUnpacked, Binary64.value?] at value
  | zero s =>
    obtain rfl : z = 0 := by simpa [unpacked, Binary64.ofUnpacked, Binary64.value?] using value.symm
    exact .zero s
  | finite s m e positive =>
    obtain ⟨fits, shape⟩ := unpack_bounds unpacked
    rw [unpacked, Binary64.ofUnpacked, Binary64.value?, Option.some.injEq] at value
    obtain ⟨signed, magnitude⟩ := signed_value (by positivity) value
    rw [signed, ← apply_eq]
    exact .finite s (normal_of_value positive fits shape magnitude) magnitude

theorem natAbs_apply (s : Sign) (n : ℕ) : (s.apply n).natAbs = n := by
  cases s <;> simp [Sign.apply]

theorem apply_neg (s : Sign) (n : ℤ) : (-s).apply n = -s.apply n := by
  cases s with
  | positive => rfl
  | negative => exact (Int.neg_neg n).symm

theorem apply_mul (s t : Sign) (m n : ℤ) : (s * t).apply (m * n) = s.apply m * t.apply n := by
  cases s <;> cases t
  · exact (Int.neg_mul_neg m n).symm
  · exact (Int.neg_mul m n).symm
  · exact (Int.mul_neg m n).symm
  · rfl

theorem div_mul_self (s t : Sign) : s / t * t = s := by cases s <;> cases t <;> rfl

theorem mantissa_eq_zero_iff {m n : ℕ} {e : ℤ} (value : (m : ℚ) * 2 ^ e = n) : m = 0 ↔ n = 0 := by
  have factor : (m : ℚ) * 2 ^ e = 0 ↔ (m : ℚ) = 0 :=
    mul_eq_zero_iff_right (zpow_ne_zero e two_ne_zero)
  rw [value] at factor
  exact_mod_cast factor.symm

theorem natural_pos {m n : ℕ} {e : ℤ} (positive : 0 < m) (value : (m : ℚ) * 2 ^ e = n) : 0 < n :=
  Nat.pos_of_ne_zero fun zero => Nat.ne_of_gt positive ((mantissa_eq_zero_iff value).mpr zero)

theorem isWhole_exactly (s : Sign) {n : ℕ} (positive : 0 < n) (small : n < 2 ^ 53) :
    IsWhole (exactly s n positive) (s.apply n) :=
  .finite s (filled_log2 positive small) (filled_value positive small)

/-- A whole number of at most 53 bits is written as it was calculated. -/
theorem whole_pack {u : UnpackedFloat} {z : ℤ} (whole : IsWhole u z)
    (small : z.natAbs < 2 ^ 53) : Whole (.ofModel (.pack u)) z := by
  rw [whole_iff]
  cases whole with
  | zero s =>
    change IsWhole (unpack Format.binary64 (packedZero Format.binary64 s)) 0
    rw [unpack_packedZero]
    exact .zero s
  | finite s normal value =>
    next positive =>
    rw [natAbs_apply] at small
    rw [finite_eq_exactly (natural_pos positive value) small positive normal value]
    change IsWhole (unpack Format.binary64 (pack Format.binary64 _)) _
    rw [unpack_pack_exactly _ small]
    exact isWhole_exactly s _ small

theorem IsWhole.eq_exactly {u : UnpackedFloat} {z : ℤ} (whole : IsWhole u z) (nonzero : z ≠ 0)
    (small : z.natAbs < 2 ^ 53) :
    u = exactly (if z < 0 then .negative else .positive) z.natAbs (Int.natAbs_pos.mpr nonzero) := by
  cases whole with
  | zero => exact absurd rfl nonzero
  | finite s normal value =>
    next n _ positive =>
    have above := natural_pos positive value
    have sign : (if s.apply n < 0 then Sign.negative else .positive) = s := by
      cases s with
      | positive => exact if_neg (by simp [Sign.apply])
      | negative => exact if_pos (by simp [Sign.apply, above])
    rw [natAbs_apply] at small
    simp only [natAbs_apply, sign]
    exact finite_eq_exactly above small positive normal value

/-- A whole number of at most 53 bits other than zero is one double only. -/
theorem Whole.eq {x y : Float} {z : ℤ} (wholeX : Whole x z) (wholeY : Whole y z)
    (nonzero : z ≠ 0) (small : z.natAbs < 2 ^ 53) : x = y := by
  apply eq_of_unpack
  rw [(whole_iff.mp wholeX).eq_exactly nonzero small,
    (whole_iff.mp wholeY).eq_exactly nonzero small]

/-! ### Arithmetic -/

theorem isWhole_normalize {m z e : ℤ} (zeroSign : Sign) (small : z.natAbs < 2 ^ 53)
    (value : (m : ℚ) * 2 ^ e = z) : IsWhole (normalize Format.binary64 m e zeroSign) z := by
  have rounded (s : Sign) {k : ℕ} (positive : 0 < k) (same : m = s.apply k) :
      IsWhole (Float.Model.UnpackedFloat.round Format.binary64 s k e) z := by
    rw [same, cast_apply, ite_mul, neg_mul] at value
    obtain ⟨signed, magnitude⟩ := signed_value (by positivity) value
    have above := natural_pos positive magnitude
    have whole := isWhole_exactly s above small
    rw [apply_eq, ← signed] at whole
    rwa [round_exactly above small magnitude]
  rw [Float.Model.UnpackedFloat.normalize]
  rcases lt_trichotomy m 0 with below | rfl | above
  · rw [Int.compare_eq_lt.mpr below]
    exact rounded .negative (by omega) (by simp [Sign.apply]; omega)
  · rw [Int.compare_eq_eq.mpr rfl]
    obtain rfl : z = 0 := by simpa using value.symm
    exact .zero zeroSign
  · rw [Int.compare_eq_gt.mpr above]
    exact rounded .positive (by omega) (by simp [Sign.apply]; omega)

theorem aligned {m : ℕ} {e target : ℤ} (below : target ≤ e) :
    ((m <<< (e - target).toNat : ℕ) : ℚ) * 2 ^ target = m * 2 ^ e := by
  obtain ⟨k, rfl⟩ : ∃ k : ℕ, e = target + k := ⟨(e - target).toNat, by omega⟩
  rw [Nat.shiftLeft_eq, show (target + k - target).toNat = k by omega, zpow_add₀ two_ne_zero,
    zpow_natCast]
  push_cast
  ring

theorem isWhole_add {u v : UnpackedFloat} {a b : ℤ} (wholeU : IsWhole u a) (wholeV : IsWhole v b)
    (small : (a + b).natAbs < 2 ^ 53) :
    IsWhole (UnpackedFloat.add Format.binary64 u v) (a + b) := by
  cases wholeU with
  | zero s =>
    cases wholeV with
    | zero t =>
      rw [UnpackedFloat.add]
      split <;> exact .zero _
    | finite t normal value =>
      rw [Int.zero_add]
      exact .finite t normal value
  | finite s normalU valueU =>
    cases wholeV with
    | zero t =>
      rw [Int.add_zero]
      exact .finite s normalU valueU
    | finite t normalV valueV =>
      apply isWhole_normalize _ small
      rw [Int.cast_add, Int.cast_add, add_mul]
      simp only [cast_apply, Int.cast_natCast, ← valueU, ← valueV, ite_mul, neg_mul,
        aligned (min_le_left _ _), aligned (min_le_right _ _)]

theorem isWhole_neg {u : UnpackedFloat} {a : ℤ} (whole : IsWhole u a) : IsWhole u.neg (-a) := by
  cases whole with
  | zero s => exact .zero _
  | finite s normal value =>
    next n _ _ =>
    rw [← apply_neg]
    exact .finite _ normal value

theorem sub_eq_add_neg' (u v : UnpackedFloat) :
    UnpackedFloat.sub Format.binary64 u v = UnpackedFloat.add Format.binary64 u v.neg := by
  cases u <;> cases v <;> try rfl
  rw [UnpackedFloat.sub, UnpackedFloat.neg, UnpackedFloat.add]
  simp only [apply_neg, Int.sub_eq_add_neg]

theorem log2_mul_bounds {m n : ℕ} (positiveM : 0 < m) (positiveN : 0 < n) :
    m.log2 + n.log2 ≤ (m * n).log2 ∧ (m * n).log2 ≤ m.log2 + n.log2 + 1 := by
  have boundsM := (Nat.log2_eq_iff (Nat.ne_of_gt positiveM)).mp rfl
  have boundsN := (Nat.log2_eq_iff (Nat.ne_of_gt positiveN)).mp rfl
  have nonzero := Nat.ne_of_gt (Nat.mul_pos positiveM positiveN)
  constructor
  · rw [Nat.le_log2 nonzero, Nat.pow_add]
    exact Nat.mul_le_mul boundsM.1 boundsN.1
  · apply Nat.le_of_lt_succ
    rw [Nat.log2_lt nonzero]
    calc m * n < 2 ^ (m.log2 + 1) * 2 ^ (n.log2 + 1) :=
          Nat.mul_lt_mul_of_lt_of_lt boundsM.2 boundsN.2
      _ = 2 ^ (m.log2 + n.log2 + 1 + 1) := by ring

section

variable {s t : Sign} {m k n l : ℕ} {e f : ℤ} (normalM : m.log2 = 52) (normalK : k.log2 = 52)
  (valueM : (m : ℚ) * 2 ^ e = n) (valueK : (k : ℚ) * 2 ^ f = l)
include normalM normalK valueM valueK

theorem roundWithAccuracy_mul (positive : 0 < n * l) (small : n * l < 2 ^ 53) :
    roundWithAccuracy Format.binary64 s (m * k) (e + f) .exact = exactly s (n * l) positive := by
  have value : ((m * k : ℕ) : ℚ) * 2 ^ (e + f) = (n * l : ℕ) := by
    push_cast
    rw [← valueM, ← valueK, zpow_add₀ two_ne_zero]
    ring
  have bits := log2_add positive value
  have long : 52 ≤ (m * k).log2 := by
    have nonzero {j : ℕ} (normal : j.log2 = 52) : j ≠ 0 := by
      rintro rfl
      simp at normal
    have low := (Nat.le_log2 (nonzero normalM)).mp (Nat.le_of_eq normalM.symm)
    apply (Nat.le_log2 (Nat.mul_ne_zero (nonzero normalM) (nonzero normalK))).mpr
    exact Nat.le_trans low (Nat.le_mul_of_pos_right m (Nat.pos_of_ne_zero (nonzero normalK)))
  exact roundWithAccuracy_exactly positive small value (by omega)

theorem divCore_exact {c : ℕ} (positive : 0 < c) (small : c < 2 ^ 53) (nonzero : 0 < l)
    (even : n = c * l) :
    ∃ j g, divCore Format.binary64 m e k f = (j, g, .exact) ∧ (j : ℚ) * 2 ^ g = c ∧
      g ≤ c.log2 - 52 := by
  have bits := log2_le_of_small positive small
  have product : 0 < n := even ▸ Nat.mul_pos positive nonzero
  have logs := log2_mul_bounds positive nonzero
  rw [← even] at logs
  have logN := log2_add product valueM
  have logL := log2_add nonzero valueK
  obtain ⟨d, exponents, few⟩ : ∃ d : ℕ, e = f + d ∧ d ≤ 53 := ⟨(e - f).toNat, by omega, by omega⟩
  have mantissas : m * 2 ^ d = c * k := by
    have same : (m : ℚ) * 2 ^ d * 2 ^ f = c * k * 2 ^ f := by
      calc (m : ℚ) * 2 ^ d * 2 ^ f = m * 2 ^ e := by
            rw [exponents, zpow_add₀ two_ne_zero, zpow_natCast]
            ring
        _ = c * (k * 2 ^ f) := by rw [valueM, valueK, even, Nat.cast_mul]
        _ = c * k * 2 ^ f := by ring
    exact_mod_cast mul_right_cancel₀ (by positivity) same
  have shifted : m <<< 53 = c * 2 ^ (53 - d) * k := by
    have split : 53 = d + (53 - d) := by omega
    calc m <<< 53 = m * 2 ^ d * 2 ^ (53 - d) := by
          rw [Nat.shiftLeft_eq, Nat.mul_assoc, ← Nat.pow_add, ← split]
      _ = c * 2 ^ (53 - d) * k := by
          rw [mantissas]
          ring
  have least : Format.binary64.minExponent = -1074 := by decide
  have precision : Format.binary64.mantissaBits = 53 := rfl
  have target : min (e - f) (Format.binary64.targetExponent
      (totalExponent m e - totalExponent k f)) = e - f - 53 := by
    rw [Format.targetExponent, totalExponent, totalExponent, least, precision]
    omega
  have divisor : 0 < k := by
    apply Nat.pos_of_ne_zero
    rintro rfl
    simp at normalK
  refine ⟨c * 2 ^ (53 - d), e - f - 53, ?_, ?_, by omega⟩
  · rw [divCore, target, show (e - f - (e - f - 53)).toNat = 53 by omega, shifted,
      Nat.mul_div_cancel _ divisor, Nat.mul_mod_left]
    rfl
  · rw [value_iff, show (e - f - 53).toNat = 0 by omega,
      show (-(e - f - 53)).toNat = 53 - d by omega, Nat.pow_zero, Nat.mul_one]

end

theorem isWhole_mul {u v : UnpackedFloat} {a b : ℤ} (wholeU : IsWhole u a) (wholeV : IsWhole v b)
    (small : (a * b).natAbs < 2 ^ 53) :
    IsWhole (UnpackedFloat.mul Format.binary64 u v) (a * b) := by
  cases wholeU with
  | zero s =>
    rw [Int.zero_mul]
    cases wholeV <;> exact .zero _
  | finite s normalU valueU =>
    cases wholeV with
    | zero t =>
      rw [Int.mul_zero]
      exact .zero _
    | finite t normalV valueV =>
      next positiveU _ _ _ positiveV =>
      have positive := Nat.mul_pos (natural_pos positiveU valueU) (natural_pos positiveV valueV)
      rw [← apply_mul, ← Int.natCast_mul] at small ⊢
      rw [natAbs_apply] at small
      rw [UnpackedFloat.mul, roundWithAccuracy_mul normalU normalV valueU valueV positive small]
      exact isWhole_exactly _ positive small

theorem isWhole_div {u v : UnpackedFloat} {a b c : ℤ} (wholeU : IsWhole u a) (wholeV : IsWhole v b)
    (nonzero : b ≠ 0) (even : a = c * b) (small : c.natAbs < 2 ^ 53) :
    IsWhole (UnpackedFloat.div Format.binary64 u v) c := by
  cases wholeV with
  | zero t => exact absurd rfl nonzero
  | finite t normalV valueV =>
    next l _ positiveV =>
    cases wholeU with
    | zero s =>
      obtain rfl : c = 0 := by simpa [nonzero] using even.symm
      exact .zero _
    | finite s normalU valueU =>
      next n _ positiveU =>
      have magnitude : n = c.natAbs * l := by
        rw [← natAbs_apply s n, even, Int.natAbs_mul, natAbs_apply]
      have divisor := natural_pos positiveV valueV
      have positive : 0 < c.natAbs := by
        apply Nat.pos_of_mul_pos_right (b := l)
        rw [← magnitude]
        exact natural_pos positiveU valueU
      have signed : (s / t).apply c.natAbs = c := by
        apply Int.eq_of_mul_eq_mul_right nonzero
        rw [← apply_mul, div_mul_self, ← even, magnitude, Int.natCast_mul]
      obtain ⟨j, g, quotient, value, fine⟩ :=
        divCore_exact normalU normalV valueU valueV positive small divisor magnitude
      have whole := isWhole_exactly (s / t) positive small
      rw [signed] at whole
      simp only [UnpackedFloat.div, quotient]
      rwa [roundWithAccuracy_exactly positive small value fine]

/-! ### Doubles -/

theorem Whole.neg {x : Float} {a : ℤ} (whole : Whole x a) (small : a.natAbs < 2 ^ 53) :
    Whole (-x) (-a) :=
  whole_pack (isWhole_neg (whole_iff.mp whole)) (by rwa [Int.natAbs_neg])

section

variable {x y : Float} {a b c : ℤ} (wholeX : Whole x a) (wholeY : Whole y b)
include wholeX wholeY

theorem Whole.add (small : (a + b).natAbs < 2 ^ 53) : Whole (x + y) (a + b) :=
  whole_pack (isWhole_add (whole_iff.mp wholeX) (whole_iff.mp wholeY) small) small

theorem Whole.sub (small : (a - b).natAbs < 2 ^ 53) : Whole (x - y) (a - b) := by
  have sum := isWhole_add (whole_iff.mp wholeX) (isWhole_neg (whole_iff.mp wholeY)) small
  rw [← sub_eq_add_neg'] at sum
  exact whole_pack sum small

theorem Whole.mul (small : (a * b).natAbs < 2 ^ 53) : Whole (x * y) (a * b) :=
  whole_pack (isWhole_mul (whole_iff.mp wholeX) (whole_iff.mp wholeY) small) small

theorem Whole.div (nonzero : b ≠ 0) (even : a = c * b) (small : c.natAbs < 2 ^ 53) :
    Whole (x / y) c :=
  whole_pack (isWhole_div (whole_iff.mp wholeX) (whole_iff.mp wholeY) nonzero even small) small

end

theorem unpack_zero : (0 : Float).toModel.unpack = .zero .positive := by rfl

theorem Whole.beq_zero {x : Float} {a : ℤ} (whole : Whole x a) : (x == 0) = decide (a = 0) := by
  rw [whole_iff] at whole
  change (x.toModel.unpack.compare (0 : Float).toModel.unpack == some .eq) = _
  rw [unpack_zero]
  generalize x.toModel.unpack = u at whole ⊢
  cases whole with
  | zero s => rfl
  | finite s normal value =>
    next n _ positive =>
    have nonzero : s.apply n ≠ 0 := by
      have magnitude := natural_pos positive value
      rw [← natAbs_apply s n] at magnitude
      exact Int.natAbs_pos.mp magnitude
    rw [decide_eq_false nonzero]
    cases s <;> rfl

theorem whole_ofNat {n : ℕ} (small : n < 2 ^ 53) : Whole (Float.ofNat n) n := by
  have word : (n.toUInt64.toNat : ℤ) = n := by
    rw [Nat.toUInt64_eq, UInt64.toNat_ofNat', Nat.mod_eq_of_lt (by omega)]
  have converted : Whole n.toUInt64.toFloat n := by
    have bits : (n : ℤ).natAbs < 2 ^ 53 := small
    refine whole_pack (isWhole_normalize _ bits ?_) bits
    rw [word]
    simp
  have one : Whole (Float.ofBits 0x3FF0000000000000) 1 := by
    have unpacked : (Float.ofBits 0x3FF0000000000000).toModel.unpack =
        .finite .positive (2 ^ 52) (-52) (by decide) := by rfl
    rw [whole_iff, unpacked]
    exact .finite (n := 1) .positive (by decide) (by norm_num)
  have product : Float.ofNat n = n.toUInt64.toFloat * Float.ofBits 0x3FF0000000000000 :=
    dif_pos ⟨small, by decide⟩
  have exactProduct := converted.mul one (by simpa using small)
  rwa [← product, Int.mul_one] at exactProduct

theorem whole_ofInt {z : ℤ} (small : z.natAbs < 2 ^ 53) : Whole (Float.ofInt z) z := by
  cases z with
  | ofNat n => exact whole_ofNat small
  | negSucc n => exact (whole_ofNat small).neg small

/-! ### The double closest to a whole number -/

/-- The bits of a double are kept unless they stand for no number. -/
theorem toNat_toBits_ofBits {bits : ℕ} (fits : bits < 2 ^ 64)
    (finite : bits / leastNormal % 2048 ≠ 2047) :
    (Float.ofBits (UInt64.ofNat bits)).toBits.toNat = bits := by
  have word : (UInt64.ofNat bits).toBitVec.toNat = bits := by
    change bits % 2 ^ 64 = bits
    exact Nat.mod_eq_of_lt fits
  have number : @isNaNBits Format.binary64 (UInt64.ofNat bits).toBitVec = false := by
    rw [isNaNBits, decide_eq_false_iff_not, not_and]
    intro full
    have same := congrArg BitVec.toNat full
    rw [toNat_exponentField, word] at same
    exact absurd same finite
  have kept := @pack_unpack Format.binary64 (UInt64.ofNat bits).toBitVec
  rw [number] at kept
  change (pack Format.binary64 (unpack Format.binary64 (UInt64.ofNat bits).toBitVec)).toNat = bits
  rw [kept]
  exact word

theorem roundDiv_mul (m : ℕ) {den : ℕ} (positive : 0 < den) : roundDiv (m * den) den = m := by
  have exactly : ¬ 0 = den := by omega
  simp [roundDiv, Nat.mul_div_cancel _ positive, Nat.mul_mod_left, exactly]

theorem floorLog2_mul_pow {n : ℕ} (positive : 0 < n) (k : ℕ) :
    floorLog2 (n * 2 ^ k) (2 ^ k) = n.log2 := by
  have guess : (((n * 2 ^ k).log2 : ℤ) - (2 ^ k).log2) = n.log2 := by
    rw [log2_mul_pow positive, Nat.log2_two_pow]
    omega
  have low : 2 ^ k * 2 ^ n.log2 ≤ n * 2 ^ k := by
    rw [Nat.mul_comm n]
    exact Nat.mul_le_mul_left _ (Nat.log2_self_le (Nat.ne_of_gt positive))
  rw [floorLog2, guess, if_neg]
  simpa using low

theorem nearestBits_whole {n : ℕ} (positive : 0 < n) (small : n < 2 ^ 53) (k : ℕ) :
    nearestBits (n * 2 ^ k) (2 ^ k) = (n.log2 + 1022) * leastNormal + n * 2 ^ (52 - n.log2) := by
  have bits := log2_le_of_small positive small
  have exponent : max ((n.log2 : ℤ) - 52) leastExponent = n.log2 - 52 := by
    rw [leastExponent]
    omega
  have scaled : n * 2 ^ k * Nat.pow 2 (52 - n.log2) = n * 2 ^ (52 - n.log2) * 2 ^ k := by
    rw [Nat.pow_eq]
    ring
  obtain ⟨_, mantissa⟩ := (Nat.log2_eq_iff (Nat.ne_of_gt (scaled_pos positive _))).mp
    (filled_log2 positive small)
  rw [nearestBits, if_neg (Nat.ne_of_gt (scaled_pos positive k)), floorLog2_mul_pow positive,
    exponent]
  dsimp only
  rw [show (-((n.log2 : ℤ) - 52)).toNat = 52 - n.log2 by omega,
    show ((n.log2 : ℤ) - 52).toNat = 0 by omega, scaled, Nat.pow_eq, Nat.pow_zero, Nat.mul_one,
    roundDiv_mul _ (by positivity),
    show ((n.log2 : ℤ) - 52 - leastExponent).toNat = n.log2 + 1022 by rw [leastExponent]; omega]
  apply Nat.min_eq_left
  rw [infinityBits, leastNormal, Nat.pow_eq]
  omega

theorem ofFloat_ofBits (negative : Bool) {biased fraction : ℕ} (above : 0 < biased)
    (below : biased < 2047) (fits : fraction < leastNormal) :
    Binary64.ofFloat (Float.ofBits (UInt64.ofNat
        ((if negative then Nat.pow 2 63 else 0) + biased * leastNormal + fraction))) =
      .finite negative (fraction + leastNormal) (biased - 1 + leastExponent) := by
  have size : leastNormal = 4503599627370496 := rfl
  have half : Nat.pow 2 63 = 9223372036854775808 := rfl
  rw [size] at fits ⊢
  rw [half]
  generalize written : (if negative then 9223372036854775808 else 0) + biased * 4503599627370496 +
    fraction = word
  obtain ⟨high, exponent, mantissa, whole⟩ :
      word / 9223372036854775808 = (if negative then 1 else 0) ∧
        word / 4503599627370496 % 2048 = biased ∧ word % 4503599627370496 = fraction ∧
        word < 2 ^ 64 := by
    cases negative <;> simp only [if_true, if_false, Bool.false_eq_true] at written ⊢ <;> omega
  have bits : (Float.ofBits (UInt64.ofNat word)).toBits.toNat = word := by
    apply toNat_toBits_ofBits whole
    rw [size]
    omega
  have sign : (word / Nat.pow 2 63 == 1) = negative := by
    rw [half, high]
    cases negative <;> rfl
  rw [Binary64.ofFloat, bits, sign, size, exponent, mantissa, if_neg (Nat.ne_of_lt below),
    if_neg (Nat.ne_of_gt above)]

theorem ofFloat_nearest_zero (negative : Bool) (den : ℕ) :
    Binary64.ofFloat (nearest negative 0 den) = .finite negative 0 leastExponent := by
  rw [nearest, nearestBits, if_pos rfl]
  cases negative <;> rfl

theorem ofFloat_nearest (negative : Bool) {n : ℕ} (positive : 0 < n) (small : n < 2 ^ 53)
    (k : ℕ) :
    Binary64.ofFloat (nearest negative (n * 2 ^ k) (2 ^ k)) =
      .finite negative (n * 2 ^ (52 - n.log2)) (n.log2 - 52) := by
  have few := log2_le_of_small positive small
  obtain ⟨low, high⟩ := (Nat.log2_eq_iff (Nat.ne_of_gt (scaled_pos positive _))).mp
    (filled_log2 positive small)
  have size : leastNormal = 2 ^ 52 := rfl
  have bits : (if negative then
      (n.log2 + 1022) * leastNormal + n * 2 ^ (52 - n.log2) + Nat.pow 2 63 else
      (n.log2 + 1022) * leastNormal + n * 2 ^ (52 - n.log2)) =
      (if negative then Nat.pow 2 63 else 0) + (n.log2 + 1023) * leastNormal +
        (n * 2 ^ (52 - n.log2) - leastNormal) := by
    rw [size]
    split <;> omega
  rw [nearest, nearestBits_whole positive small, bits,
    ofFloat_ofBits negative (by omega) (by omega) (by rw [size]; omega), leastExponent, size,
    Nat.sub_add_cancel low, show ((n.log2 + 1023 : ℕ) : ℤ) - 1 + -1074 = n.log2 - 52 by omega]

theorem whole_nearest (negative : Bool) {n : ℕ} (small : n < 2 ^ 53) (k : ℕ) :
    Whole (nearest negative (n * 2 ^ k) (2 ^ k)) (if negative then -(n : ℤ) else n) := by
  rcases Nat.eq_zero_or_pos n with rfl | positive
  · rw [Whole, Nat.zero_mul, ofFloat_nearest_zero]
    simp [Binary64.value?]
  · rw [Whole, ofFloat_nearest negative positive small, Binary64.value?,
      filled_value positive small]
    cases negative <;> simp

theorem mod_of_values {m n k l : ℕ} {p q c : ℤ} (valueM : (m : ℚ) * 2 ^ p = k)
    (valueN : (n : ℚ) * 2 ^ q = l) (belowM : c ≤ p) (belowN : c ≤ q) :
    m * Nat.pow 2 (p - c).toNat % (n * Nat.pow 2 (q - c).toNat) * Nat.pow 2 c.toNat =
      k % l * 2 ^ (-c).toNat := by
  have scaled {j i : ℕ} {e : ℤ} (value : (j : ℚ) * 2 ^ e = i) (below : c ≤ e) :
      j * Nat.pow 2 (e - c).toNat * Nat.pow 2 c.toNat = i * 2 ^ (-c).toNat := by
    apply value_iff.mp
    rw [← value, ← aligned below, Nat.shiftLeft_eq]
    rfl
  rw [← Nat.mul_mod_mul_right, scaled valueM belowM, scaled valueN belowN, Nat.mul_mod_mul_right]

theorem Whole.remainder {x y : Float} {a b : ℤ} (wholeX : Whole x a) (wholeY : Whole y b)
    (nonzero : b ≠ 0) (small : (a.tmod b).natAbs < 2 ^ 53) :
    Whole (remainder x y) (a.tmod b) := by
  obtain ⟨negative, m, p, valueX, signX, magnitudeX⟩ := wholeX.finite
  obtain ⟨other, n, q, valueY, signY, magnitudeY⟩ := wholeY.finite
  have divisor : n ≠ 0 := fun zero =>
    nonzero (Int.natAbs_eq_zero.mp ((mantissa_eq_zero_iff magnitudeY).mp zero))
  have signed : a.tmod b =
      if negative then -((a.natAbs % b.natAbs : ℕ) : ℤ) else (a.natAbs % b.natAbs : ℕ) := by
    have unsigned : a.tmod b = a.tmod b.natAbs := by
      rcases Int.natAbs_eq b with same | same
      · rw [← same]
      · rw [same, Int.tmod_neg, ← same]
    rw [unsigned, Int.ofNat_tmod]
    cases negative with
    | false => exact congrArg (Int.tmod · _) signX
    | true => rw [if_pos rfl, ← Int.neg_tmod, ← (show a = -(a.natAbs : ℤ) from signX)]
  rw [Int.natAbs_tmod] at small
  simp only [Number.remainder, valueX, valueY, if_neg divisor,
    mod_of_values magnitudeX magnitudeY (min_le_left p q) (min_le_right p q)]
  rw [signed]
  exact whole_nearest negative small _

end Questline.Number
