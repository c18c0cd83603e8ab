import Questline.Value
import Questline.Proofs.Delimiters
import Questline.Proofs.WholeNumbers

/-! Whole numbers as texts. A double that is a whole number is written as an integer numeral, and
what reads the numeral finds the double again: the digits make an exact quotient, and the double
closest to an exact whole number is that number itself. -/
namespace Questline.Number

/-! ### Numerals -/

/-- A numeral in plain digits: a minus sign in front of a negative number only, no zeros in front of
others, and neither a point nor an exponent. -/
def IsNumeral (s : String) (z : ℤ) : Prop :=
  ∃ digits : List Char, s.toList = (if z < 0 then ['-'] else []) ++ digits ∧
    digits ≠ [] ∧ (∀ c ∈ digits, Text.isPlainDigit c) ∧ (digits.head? = some '0' → digits = ['0']) ∧
    digitsValue 0 digits = z.natAbs

theorem toList_toString (z : ℤ) :
    (toString z).toList = (if z < 0 then ['-'] else []) ++ Nat.toDigits 10 z.natAbs := by
  cases z with
  | ofNat n =>
    change n.repr.toList = _
    rw [Nat.toList_repr]
    rfl
  | negSucc n =>
    have negative : Int.negSucc n < 0 := Int.negSucc_lt_zero n
    change ("-" ++ n.succ.repr).toList = _
    rw [String.toList_append, Nat.toList_repr, if_pos negative]
    rfl

theorem digitsValue_eq (acc : ℕ) (digits : List Char) :
    digitsValue acc digits = Nat.ofDigitChars 10 digits acc := by
  induction digits generalizing acc with
  | nil => rfl
  | cons c rest ih => exact ih _

theorem isPlainDigit_of_mem {n : ℕ} {c : Char} (member : c ∈ Nat.toDigits 10 n) :
    Text.isPlainDigit c = true := by
  have digit := Nat.isDigit_of_mem_toDigits (by decide) (by decide) member
  rw [Char.isDigit, Bool.and_eq_true, decide_eq_true_iff, decide_eq_true_iff] at digit
  rw [Text.isPlainDigit, Bool.and_eq_true, decide_eq_true_iff, decide_eq_true_iff]
  exact digit

theorem toDigits_of_head {n : ℕ} (zero : (Nat.toDigits 10 n).head? = some '0') :
    Nat.toDigits 10 n = ['0'] := by
  induction n using Nat.strongRecOn with
  | ind n ih =>
    rw [Nat.toDigits_eq_if (by decide)] at zero ⊢
    split at zero
    · next one =>
      rw [if_pos one]
      simpa using zero
    · next more =>
      have shorter : (Nat.toDigits 10 (n / 10)).head? = some '0' := by
        rwa [List.head?_append_of_ne_nil _ Nat.toDigits_ne_nil] at zero
      have lone := ih (n / 10) (by omega) shorter
      have value : Nat.ofDigitChars 10 (Nat.toDigits 10 (n / 10)) 0 = n / 10 :=
        Nat.ofDigitChars_ten_toDigits
      rw [lone] at value
      have nothing : n / 10 = 0 := value.symm
      omega

theorem isNumeral_toString (z : ℤ) : IsNumeral (toString z) z := by
  refine ⟨Nat.toDigits 10 z.natAbs, toList_toString z, Nat.toDigits_ne_nil,
    fun c => isPlainDigit_of_mem, toDigits_of_head, ?_⟩
  rw [digitsValue_eq, Nat.ofDigitChars_ten_toDigits]

/-! ### Writing -/

theorem whole?_of_value {m n : ℕ} {q : ℤ} (value : (m : ℚ) * 2 ^ q = n) : whole? m q = some n := by
  have positive : 0 < Nat.pow 2 (-q).toNat := Nat.two_pow_pos _
  have scaled : m * Nat.pow 2 q.toNat = n * Nat.pow 2 (-q).toNat := value_iff.mp value
  rw [whole?, scaled, if_pos (Nat.mul_mod_left _ _), Nat.mul_div_cancel _ positive]

theorem text_of_whole {x : Float} {z : ℤ} (whole : Whole x z) (small : z.natAbs < wholeLimit) :
    text x = toString z := by
  obtain ⟨negative, m, q, value, same, magnitude⟩ := whole.finite
  have minus : (negative && z.natAbs != 0) = decide (z < 0) := by
    cases negative with
    | false => exact (decide_eq_false (by rw [same]; simp)).symm
    | true =>
      rw [if_pos rfl] at same
      rw [Bool.true_and, Bool.eq_iff_iff, bne_iff_ne, decide_eq_true_iff]
      omega
  simp only [text, value, whole?_of_value magnitude, if_pos small, minus]
  rw [← String.toList_inj, toList_toString, signed]
  by_cases below : z < 0 <;> simp [below, Nat.toList_repr, toString]

/-! ### Reading -/

theorem toLower_of_isPlainDigit {c : Char} (plain : Text.isPlainDigit c) : c.toLower = c := by
  rw [Text.isPlainDigit, Bool.and_eq_true, decide_eq_true_iff, decide_eq_true_iff] at plain
  have capital : ¬ 'A' ≤ c := fun above => absurd (Char.le_trans above plain.2) (by decide)
  exact dif_neg fun upper => capital upper.1

section

variable {digits : List Char} (plain : ∀ c ∈ digits, Text.isPlainDigit c)
include plain

theorem readDecimal?_of_digits (nonempty : digits ≠ []) :
    readDecimal? digits = some ⟨digitsValue 0 digits, 0⟩ := by
  have whole : digits.takeWhile Text.isPlainDigit = digits := List.takeWhile_eq_self_iff.mpr plain
  have rest : digits.dropWhile Text.isPlainDigit = [] := List.dropWhile_eq_nil_iff.mpr plain
  simp [readDecimal?, whole, rest, nonempty, readExponent?]

/-- The words that are numbers too are not written in digits. -/
theorem read?_of_digits (nonempty : digits ≠ []) (negative : Bool) :
    read? (String.ofList ((if negative then ['-'] else []) ++ digits)) =
      some (Decimal.toFloat negative ⟨digitsValue 0 digits, 0⟩) := by
  have sign : takeSign ((if negative then ['-'] else []) ++ digits) = (negative, digits) := by
    cases negative with
    | true => rfl
    | false =>
      obtain ⟨c, rest, rfl⟩ := List.exists_cons_of_ne_nil nonempty
      have first := plain c List.mem_cons_self
      simp only [Bool.false_eq_true, if_false, List.nil_append]
      rw [takeSign]
      · rintro rest' same
        rw [(List.cons.inj same).1] at first
        exact absurd first (by decide)
      · rintro rest' same
        rw [(List.cons.inj same).1] at first
        exact absurd first (by decide)
  have other {word : String} (letters : word.toList.all Text.isPlainDigit = false) :
      Text.lowerPlain (String.ofList digits) ≠ word := by
    rintro rfl
    rw [Text.lowerPlain, String.toList_ofList, String.toList_ofList,
      List.map_congr_left fun c member => toLower_of_isPlainDigit (plain c member),
      List.map_id'] at letters
    rw [List.all_eq_true.mpr plain] at letters
    cases letters
  rw [read?, String.toList_ofList, sign]
  dsimp only
  rw [decide_eq_false (other (by decide)), decide_eq_false (other (by decide)), if_neg (by decide),
    if_neg (other (by decide)), readDecimal?_of_digits plain nonempty]
  rfl

end

theorem whole_toFloat (negative : Bool) {n : ℕ} (small : n < wholeLimit) :
    Whole (Decimal.toFloat negative ⟨n, 0⟩) (if negative then -(n : ℤ) else n) := by
  have few : digitCount n ≤ 15 := Nat.toDigits_length 10 n 15 (by decide) small
  have bits : n < 2 ^ 53 := Nat.lt_trans small (by decide)
  have exactly := whole_nearest negative bits 0
  rw [Nat.pow_zero, Nat.mul_one] at exactly
  rw [Decimal.toFloat]
  dsimp only
  split
  · next nothing =>
    obtain rfl : n = 0 := by
      rw [Bool.or_eq_true, decide_eq_true_iff, decide_eq_true_iff] at nothing
      exact nothing.resolve_right (by omega)
    exact exactly
  · rw [if_neg (by omega)]
    simpa using exactly

theorem read?_toString {z : ℤ} (small : z.natAbs < wholeLimit) :
    read? (toString z) = some (Float.ofInt z) := by
  have numeral : toString z = String.ofList
      ((if decide (z < 0) then ['-'] else []) ++ Nat.toDigits 10 z.natAbs) := by
    rw [← String.toList_inj, toList_toString, String.toList_ofList]
    simp
  have whole := whole_toFloat (decide (z < 0)) small
  rw [show (if decide (z < 0) then -(z.natAbs : ℤ) else z.natAbs) = z by
    simp only [decide_eq_true_eq]
    omega] at whole
  have bits : z.natAbs < 2 ^ 53 := Nat.lt_trans small (by decide)
  rw [numeral, read?_of_digits (fun c => isPlainDigit_of_mem) Nat.toDigits_ne_nil, digitsValue_eq,
    Nat.ofDigitChars_ten_toDigits]
  by_cases zero : z = 0
  · subst zero
    rfl
  · rw [whole.eq (whole_ofInt bits) zero bits]

theorem trim_toString (z : ℤ) : Text.trim (toString z) = toString z := by
  have ink : ∀ c ∈ (toString z).toList, Text.isBlank c = false := by
    intro c member
    rw [toList_toString] at member
    cases blank : Text.isBlank c with
    | false => rfl
    | true =>
      rcases List.mem_append.mp member with minus | digit
      · have same : c = '-' := by
          split at minus <;> simp at minus
          exact minus
        rw [same] at blank
        exact absurd blank (by decide)
      · have apart := Text.apart_of_isBlank (p := Text.isPlainDigit) (by decide +kernel) blank
        rw [isPlainDigit_of_mem digit] at apart
        cases apart
  have kept := @Text.trimChars_surrounded [] _ [] (by simp)
    (fun c head => ink c (List.mem_of_mem_head? head))
    (fun c last => ink c (List.mem_of_getLast? last))
  rw [Text.trim, ← String.toList_inj, String.toList_ofList]
  simpa using kept

end Questline.Number

namespace Questline.Value

theorem toNumber_toString {z : ℤ} (small : z.natAbs < Number.wholeLimit) :
    (text (toString z)).toNumber = .ok (Float.ofInt z) := by
  unfold toNumber
  dsimp only
  rw [Number.trim_toString, Number.read?_toString small]

end Questline.Value
