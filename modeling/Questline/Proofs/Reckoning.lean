import Questline.MemoryClient
import Questline.Script.Commands
import Questline.Proofs.Homes
import Questline.Proofs.Numerals

/-! Calculating with a global. Between two steps of `math` or `counter` a global is a text; what is
written there is read back as the same number, but for the sign of a zero, and no result depends on
that sign as long as it is a whole number. -/
namespace Questline

open Number (Whole IsWhole)

namespace Number

open Float.Model (Format UnpackedFloat)
open Float.Model.UnpackedFloat

/-! ### The two zeros -/

/-- Doubles that are the same but for the sign of a zero. -/
def Coincide (x y : Float) : Prop := x = y ∨ Whole x 0 ∧ Whole y 0

theorem Coincide.refl (x : Float) : Coincide x x := .inl rfl

theorem Whole.unique {x : Float} {a b : ℤ} (one : Whole x a) (other : Whole x b) : a = b := by
  have same := one.symm.trans other
  exact_mod_cast Option.some.inj same

theorem Whole.coincide {x y : Float} {z : ℤ} (wholeX : Whole x z) (wholeY : Whole y z)
    (small : z.natAbs < 2 ^ 53) : Coincide x y := by
  by_cases zero : z = 0
  · subst zero
    exact .inr ⟨wholeX, wholeY⟩
  · exact .inl (wholeX.eq wholeY zero small)

theorem Coincide.whole {x y : Float} {z : ℤ} (same : Coincide x y) (whole : Whole x z) :
    Whole y z := by
  rcases same with rfl | ⟨zero, zero'⟩
  · exact whole
  · rwa [whole.unique zero]

theorem Whole.unpack_of_zero {x : Float} (zero : Whole x 0) : ∃ s, x.toModel.unpack = .zero s := by
  rw [whole_iff] at zero
  generalize x.toModel.unpack = u at zero
  generalize nothing : (0 : ℤ) = z at zero
  cases zero with
  | zero s => exact ⟨s, rfl⟩
  | finite s normal value =>
    next n _ positive =>
    have magnitude := natural_pos positive value
    rw [← natAbs_apply s n, ← nothing] at magnitude
    exact absurd magnitude (by decide)

theorem Whole.ofFloat_of_zero {x : Float} (zero : Whole x 0) :
    ∃ negative p, Binary64.ofFloat x = .finite negative 0 p := by
  obtain ⟨negative, m, p, value, -, nothing⟩ := zero.finite
  obtain rfl : m = 0 := (mantissa_eq_zero_iff nothing).mpr rfl
  exact ⟨negative, p, value⟩

theorem whole_nearest_zero (negative : Bool) (k : ℕ) : Whole (nearest negative 0 (2 ^ k)) 0 := by
  have whole := whole_nearest negative (n := 0) (by decide) k
  simpa using whole

/-- An operation that sees the sign of a zero in the sign of a zero only. -/
theorem coincide_of_zeros (op : UnpackedFloat → UnpackedFloat → UnpackedFloat)
    (zeros : ∀ s t v, op (.zero s) v = op (.zero t) v ∨
      IsWhole (op (.zero s) v) 0 ∧ IsWhole (op (.zero t) v) 0)
    {x x' : Float} (same : Coincide x x') (y : Float) :
    Coincide (.ofModel (.pack (op x.toModel.unpack y.toModel.unpack)))
      (.ofModel (.pack (op x'.toModel.unpack y.toModel.unpack))) := by
  rcases same with rfl | ⟨zero, zero'⟩
  · exact .refl _
  · obtain ⟨s, unpacked⟩ := zero.unpack_of_zero
    obtain ⟨t, unpacked'⟩ := zero'.unpack_of_zero
    rw [unpacked, unpacked']
    rcases zeros s t y.toModel.unpack with equal | ⟨whole, whole'⟩
    · rw [equal]
      exact .refl _
    · exact .inr ⟨whole_pack whole (by decide), whole_pack whole' (by decide)⟩

section

variable {x x' : Float} (same : Coincide x x') (y : Float)
include same

theorem Coincide.add : Coincide (x + y) (x' + y) := by
  apply coincide_of_zeros (UnpackedFloat.add Format.binary64) _ same
  intro s t v
  cases v with
  | zero u => exact .inr ⟨isWhole_add (.zero s) (.zero u) (by decide),
      isWhole_add (.zero t) (.zero u) (by decide)⟩
  | _ => exact .inl rfl

theorem Coincide.sub : Coincide (x - y) (x' - y) := by
  apply coincide_of_zeros (UnpackedFloat.sub Format.binary64) _ same
  intro s t v
  rw [sub_eq_add_neg', sub_eq_add_neg']
  cases v with
  | zero u => exact .inr ⟨isWhole_add (.zero s) (.zero (-u)) (by decide),
      isWhole_add (.zero t) (.zero (-u)) (by decide)⟩
  | _ => exact .inl rfl

theorem Coincide.mul : Coincide (x * y) (x' * y) := by
  apply coincide_of_zeros (UnpackedFloat.mul Format.binary64) _ same
  intro s t v
  cases v with
  | zero u => exact .inr ⟨.zero _, .zero _⟩
  | finite u => exact .inr ⟨.zero _, .zero _⟩
  | _ => exact .inl rfl

theorem Coincide.div : Coincide (x / y) (x' / y) := by
  apply coincide_of_zeros (UnpackedFloat.div Format.binary64) _ same
  intro s t v
  cases v with
  | infinity u => exact .inr ⟨.zero _, .zero _⟩
  | finite u => exact .inr ⟨.zero _, .zero _⟩
  | _ => exact .inl rfl

theorem Coincide.remainder : Coincide (remainder x y) (remainder x' y) := by
  rcases same with rfl | ⟨zero, zero'⟩
  · exact .refl _
  · obtain ⟨negative, p, value⟩ := zero.ofFloat_of_zero
    obtain ⟨negative', p', value'⟩ := zero'.ofFloat_of_zero
    rw [Number.remainder, Number.remainder, value, value']
    cases Binary64.ofFloat y with
    | nan => exact .refl _
    | infinite other => exact .inr ⟨zero, zero'⟩
    | finite other n q =>
      dsimp only
      split
      · exact .refl _
      · simp only [Nat.zero_mul, Nat.zero_mod]
        exact .inr ⟨whole_nearest_zero _ _, whole_nearest_zero _ _⟩

end

end Number

namespace Commands

/-! ### One step -/

/-- What an operation makes of the number of a variable. -/
def reckon (operator : String) (x y : Float) : Except Cause Float :=
  if operator = "set" then .ok y else calculate operator x y

theorem reckon_coincide {operator : String} {x x' y z : Float} (same : Number.Coincide x x')
    (done : reckon operator x y = .ok z) :
    ∃ z', reckon operator x' y = .ok z' ∧ Number.Coincide z z' := by
  unfold reckon at done ⊢
  split
  · next set =>
    rw [if_pos set] at done
    obtain rfl := Except.ok.inj done
    exact ⟨y, rfl, .refl y⟩
  · next other =>
    rw [if_neg other] at done
    unfold calculate at done ⊢
    split at done
    · obtain rfl := Except.ok.inj done
      exact ⟨_, rfl, same.add y⟩
    · obtain rfl := Except.ok.inj done
      exact ⟨_, rfl, same.sub y⟩
    · obtain rfl := Except.ok.inj done
      exact ⟨_, rfl, same.mul y⟩
    · split at done
      · cases done
      · next divisor =>
        obtain rfl := Except.ok.inj done
        exact ⟨_, if_neg divisor, same.div y⟩
    · split at done
      · cases done
      · next divisor =>
        obtain rfl := Except.ok.inj done
        exact ⟨_, if_neg divisor, same.remainder y⟩
    · cases done

/-- The same operation on whole numbers. A quotient has to come out even. -/
def wholeResult? (operator : String) (a b : ℤ) : Option ℤ :=
  match operator with
  | "set" => some b
  | "add" => some (a + b)
  | "subtract" => some (a - b)
  | "multiply" => some (a * b)
  | "divide" => if b ≠ 0 ∧ a % b = 0 then some (a / b) else none
  | "modulus" => if b ≠ 0 then some (a.tmod b) else none
  | _ => none

theorem reckon_whole {operator : String} {x y : Float} {a b c : ℤ} (wholeX : Whole x a)
    (wholeY : Whole y b) (result : wholeResult? operator a b = some c)
    (small : c.natAbs < 2 ^ 53) : ∃ z, reckon operator x y = .ok z ∧ Whole z c := by
  unfold wholeResult? at result
  split at result
  · obtain rfl := Option.some.inj result
    exact ⟨y, rfl, wholeY⟩
  · obtain rfl := Option.some.inj result
    exact ⟨x + y, rfl, wholeX.add wholeY small⟩
  · obtain rfl := Option.some.inj result
    exact ⟨x - y, rfl, wholeX.sub wholeY small⟩
  · obtain rfl := Option.some.inj result
    exact ⟨x * y, rfl, wholeX.mul wholeY small⟩
  · split at result
    · next even =>
      obtain rfl := Option.some.inj result
      have divides := (Int.ediv_mul_cancel (Int.dvd_of_emod_eq_zero even.2)).symm
      refine ⟨x / y, ?_, wholeX.div wholeY even.1 divides small⟩
      rw [reckon, if_neg (by decide), calculate, wholeY.beq_zero, decide_eq_false even.1]
      rfl
    · cases result
  · split at result
    · next nonzero =>
      obtain rfl := Option.some.inj result
      refine ⟨Number.remainder x y, ?_, wholeX.remainder wholeY nonzero small⟩
      rw [reckon, if_neg (by decide), calculate, wholeY.beq_zero, decide_eq_false nonzero]
      rfl
    · cases result
  · cases result

theorem operand?_toString {z : ℤ} (small : z.natAbs < Number.wholeLimit) (rest : List String) :
    operand? (toString z :: rest) = .ok (Float.ofInt z) := by
  rw [operand?, Number.read?_toString small]

end Commands

/-! ### One step in the store -/

namespace Variables

variable {v : Variables} {name : String} (free : v.isSpecial name = false)
include free

theorem get?_of_written {g : Globals} {s : String} (written : g.get? name = some s)
    (live : LiveValue → Option Value) (now : Nat) :
    v.get? ⟨g, live, now⟩ name = some (.text s) := by
  have absent : v.specials.get? name = none :=
    Option.isNone_iff_eq_none.mp (Option.isSome_eq_false_iff.mp free)
  rw [get?, absent]
  simp only [written, Option.map_some]

theorem setGlobal_of_free (g : Globals) (value : Value) :
    v.setGlobal g name value = .ok (g.set name value.display) :=
  if_neg (Bool.eq_false_iff.mp free)

end Variables

variable {σ : Type}

namespace Run

variable {r : Run σ} {name : String}

theorem isSpecial_trace (r : Run σ) (level : Nat) (text name : String) :
    (r.trace level text).script.vars.isSpecial name = r.script.vars.isSpecial name := by
  unfold trace
  split <;> rfl

/-- The variable is a global that holds a whole number in writing. -/
structure Stores (r : Run σ) (name : String) (z : ℤ) : Prop where
  free : r.script.vars.isSpecial name = false
  written : r.world.globals.get? name = some (toString z)

theorem setGlobal_stores (free : r.script.vars.isSpecial name = false) {x : Float} {z : ℤ}
    (whole : Whole x z) (small : z.natAbs < Number.wholeLimit) :
    ∃ q, r.setGlobal name (.number x) = .ok q ∧ q.Stores name z := by
  rw [Run.setGlobal, Variables.setGlobal_of_free free]
  refine ⟨_, rfl, free, ?_⟩
  change (r.world.globals.set name (Number.text x)).get? name = _
  rw [Globals.get?_set, if_pos rfl, Number.text_of_whole whole small]

variable [Client σ]

theorem Stores.get? {z : ℤ} (stores : r.Stores name z) :
    r.script.vars.get? r.around name = some (.text (toString z)) :=
  Variables.get?_of_written stores.free stores.written _ _

end Run

namespace Commands

variable [Client σ] {r : Run σ} {name : String} {a c : ℤ}

theorem numberOf_of_stores (stores : r.Stores name a) (small : a.natAbs < Number.wholeLimit) :
    numberOf r name = .ok (Float.ofInt a) := by
  rw [numberOf, stores.get?]
  simp only [Value.toNumber_toString small]

/-- A command that works on the variable: `math` is told which one, the counter knows. -/
inductive Asks (name : String) : Builtin × String → String → Float → Prop
  | math {arguments operator : String} {operands : List String} {y : Float}
      (words : Text.words arguments = name :: operator :: operands)
      (operand : operand? operands = .ok y) : Asks name (.math, arguments) (Text.lower operator) y
  | counter {arguments operator : String} {operands : List String} {y : Float}
      (words : Text.words arguments = operator :: operands) (named : name = counterName)
      (operand : operand? operands = .ok y) :
      Asks name (.counter, arguments) (Text.lower operator) y

section

variable {x y z : Float} (stores : r.Stores name a) (smallA : a.natAbs < Number.wholeLimit)
  (wholeX : Whole x a) (wholeZ : Whole z c) (smallC : c.natAbs < Number.wholeLimit)
include stores smallA wholeX wholeZ smallC

/-- The result is the one that the number itself has, although it has been read from a text. -/
theorem operate_stores {operator : String} {operands : List String}
    (operand : operand? operands = .ok y) (result : reckon (Text.lower operator) x y = .ok z) :
    ∃ q, operate r name (operator :: operands) = (q, .done) ∧ q.Stores name c := by
  have bits : a.natAbs < 2 ^ 53 := Nat.lt_trans smallA (by decide)
  obtain ⟨z', again, same⟩ :=
    reckon_coincide (wholeX.coincide (Number.whole_ofInt bits) bits) result
  have whole := same.whole wholeZ
  simp only [operate, operand]
  unfold reckon at again
  split at again
  · next set =>
    obtain rfl := Except.ok.inj again
    obtain ⟨q, done, kept⟩ := Run.setGlobal_stores stores.free whole smallC
    rw [if_pos set, done]
    exact ⟨q, rfl, kept⟩
  · next other =>
    simp only [if_neg other, numberOf_of_stores stores smallA, again]
    generalize "math " ++ name ++ ": " ++ Number.display (Float.ofInt a) ++ " -> " ++
      Number.display z' = message
    obtain ⟨q, done, kept⟩ :=
      Run.setGlobal_stores ((r.isSpecial_trace 1 message name).trans stores.free) whole smallC
    rw [done]
    exact ⟨q, rfl, kept⟩

theorem perform_stores {command : Builtin × String} {operator : String}
    (asks : Asks name command operator y) (result : reckon operator x y = .ok z) :
    ∃ q, perform r command.2 command.1 = (q, .done) ∧ q.Stores name c := by
  cases asks with
  | math words operand =>
    change ∃ q, math r _ = (q, .done) ∧ _
    rw [math, words]
    exact operate_stores stores smallA wholeX wholeZ smallC operand result
  | counter words named operand =>
    change ∃ q, counter r _ = (q, .done) ∧ _
    subst named
    rw [counter, words]
    exact operate_stores stores smallA wholeX wholeZ smallC operand result

end

/-! ### Many steps -/

/-- Performs the commands as long as they are done. -/
def performAll (r : Run σ) : List (Builtin × String) → Option (Run σ)
  | [] => some r
  | (command, arguments) :: rest =>
    match perform r arguments command with
    | (q, .done) => performAll q rest
    | _ => none

/-- The commands calculate `w` from `x` if no result is put aside in between, and all results are
whole numbers below the limit. -/
inductive Reckons (name : String) : Float → List (Builtin × String) → Float → Prop
  | rest (x : Float) : Reckons name x [] x
  | step {x y z w : Float} {c : ℤ} {command : Builtin × String} {commands : List (Builtin × String)}
      {operator : String} (asks : Asks name command operator y)
      (result : reckon operator x y = .ok z) (whole : Whole z c)
      (small : c.natAbs < Number.wholeLimit) (onward : Reckons name z commands w) :
      Reckons name x (command :: commands) w

theorem Reckons.stores {x w : Float} {commands : List (Builtin × String)}
    (reckons : Reckons name x commands w) (whole : Whole x a)
    (small : a.natAbs < Number.wholeLimit) (stores : r.Stores name a) :
    ∃ q c, performAll r commands = some q ∧ Whole w c ∧ c.natAbs < Number.wholeLimit ∧
      q.Stores name c := by
  induction reckons generalizing r a with
  | rest x => exact ⟨r, a, rfl, whole, small, stores⟩
  | step asks result wholeZ smallZ _ ih =>
    obtain ⟨q, done, kept⟩ := perform_stores stores small whole wholeZ smallZ asks result
    obtain ⟨last, c, finished, rest⟩ := ih wholeZ smallZ kept
    refine ⟨last, c, ?_, rest⟩
    rw [performAll, done]
    exact finished

/-! ### Whole numbers in the store -/

/-- A whole number below the limit is written in plain digits, and a global that it is put into
holds it in writing and is read as that number again. Operations on it are exact as far as their
results are whole numbers below the limit, and then it makes no difference that each result goes
through the store before the next command. -/
theorem whole_numbers_survive_storage {z : ℤ} (small : z.natAbs < 10 ^ 15) :
    Whole (Float.ofInt z) z ∧ ∀ x, Whole x z →
      (Number.text x = toString z ∧ Number.IsNumeral (Number.text x) z) ∧
      (∀ (v : Variables) (g : Globals) (name : String), v.isSpecial name = false →
        ∃ g' s, v.setGlobal g name (.number x) = .ok g' ∧
          (∀ live now, v.get? ⟨g', live, now⟩ name = some (.text s)) ∧
          (Value.text s).toNumber = .ok (Float.ofInt z)) ∧
      (∀ operator y b c, Whole y b → wholeResult? operator z b = some c → c.natAbs < 10 ^ 15 →
        ∃ w, reckon operator x y = .ok w ∧ Whole w c) ∧
      ∀ (r : Run σ) name commands w, r.script.vars.isSpecial name = false →
        Reckons name x commands w →
        ∃ q last c, r.setGlobal name (.number x) = .ok q ∧ performAll q commands = some last ∧
          Whole w c ∧ last.script.vars.get? last.around name = some (.text (toString c)) ∧
          numberOf last name = .ok (Float.ofInt c) := by
  have limit (c : ℤ) (below : c.natAbs < 10 ^ 15) : c.natAbs < 2 ^ 53 :=
    Nat.lt_trans below (by decide)
  refine ⟨Number.whole_ofInt (limit z small), fun x whole => ?_⟩
  have written : Number.text x = toString z := Number.text_of_whole whole small
  refine ⟨⟨written, ?_⟩, ?_, ?_, ?_⟩
  · rw [written]
    exact Number.isNumeral_toString z
  · intro v g name free
    refine ⟨_, toString z, Variables.setGlobal_of_free free g _, ?_, Value.toNumber_toString small⟩
    apply Variables.get?_of_written free
    rw [Globals.get?_set, if_pos rfl, Value.display, written]
  · intro operator y b c wholeY result below
    exact reckon_whole whole wholeY result (limit c below)
  · intro r name commands w free reckons
    obtain ⟨q, done, stores⟩ := Run.setGlobal_stores free whole small
    obtain ⟨last, c, finished, exactly, below, kept⟩ := reckons.stores whole small stores
    exact ⟨q, last, c, done, finished, exactly, kept.get?, numberOf_of_stores kept below⟩

def ledger : Run MemoryClient :=
  ⟨Script.create {} "ledger" (.parse "counter add") [], { client := {} }⟩

theorem whole_numbers_survive_storage_ledger :
    Number.text (Float.ofInt (-999999999999999)) = "-999999999999999" ∧
      (∃ g s, ledger.script.vars.setGlobal {} "c" (.number (Float.ofInt (-999999999999999))) =
          .ok g ∧
        (∀ live now, ledger.script.vars.get? ⟨g, live, now⟩ "c" = some (.text s)) ∧
        (Value.text s).toNumber = .ok (Float.ofInt (-999999999999999))) ∧
      ∃ q last, ledger.setGlobal "c" (.number (Float.ofInt (-999999999999999))) = .ok q ∧
        performAll q [(.counter, "ADD"), (.math, "c divide -2"), (.counter, "modulus 1000")] =
          some last ∧
        last.script.vars.get? last.around "c" = some (.text "999") ∧
        numberOf last "c" = .ok (Float.ofInt 999) := by
  have free : ledger.script.vars.isSpecial "c" = false := by decide +kernel
  obtain ⟨whole, stored⟩ :=
    whole_numbers_survive_storage (σ := MemoryClient) (z := -999999999999999) (by decide)
  obtain ⟨written, kept, sharp, reckoned⟩ := stored _ whole
  obtain ⟨x, added, wholeX⟩ := sharp (Text.lower "ADD") 1 1 (-999999999999998)
    (Number.whole_ofNat (n := 1) (by decide)) (by decide +kernel) (by decide)
  obtain ⟨y, divided, wholeY⟩ : ∃ y, reckon (Text.lower "divide") x (Float.ofInt (-2)) = .ok y ∧
      Whole y 499999999999999 :=
    reckon_whole wholeX (Number.whole_ofInt (by decide)) (by decide +kernel) (by decide)
  obtain ⟨w, left, wholeW⟩ : ∃ w, reckon (Text.lower "modulus") y (Float.ofInt 1000) = .ok w ∧
      Whole w 999 :=
    reckon_whole wholeY (Number.whole_ofInt (by decide)) (by decide +kernel) (by decide)
  have reckons : Reckons "c" (Float.ofInt (-999999999999999))
      [(.counter, "ADD"), (.math, "c divide -2"), (.counter, "modulus 1000")] w := by
    have first : Text.words "ADD" = ["ADD"] := by decide +kernel
    have second : Text.words "c divide -2" = ["c", "divide", toString (-2 : ℤ)] := by
      decide +kernel
    have third : Text.words "modulus 1000" = ["modulus", toString (1000 : ℤ)] := by decide +kernel
    apply Reckons.step (.counter first rfl rfl) added wholeX (by decide)
    apply Reckons.step (.math second (operand?_toString (by decide) [])) divided wholeY (by decide)
    apply Reckons.step (.counter third rfl (operand?_toString (by decide) [])) left wholeW
      (by decide)
    exact .rest w
  obtain ⟨q, last, c, put, done, exactly, held, read⟩ := reckoned ledger "c" _ w free reckons
  obtain rfl := wholeW.unique exactly
  exact ⟨written.1, kept _ _ _ free, q, last, put, done, held, read⟩

end Commands

end Questline
