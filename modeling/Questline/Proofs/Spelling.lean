import Mathlib.Data.List.Forall2
import Questline.Text.Case

/-! Which texts become a given word in lower case. A word of plain characters is spelled letter by
letter: no character vanishes, none is added, and each is one of a few. -/
namespace Questline.Text

theorem mem_shiftedTo {runs : List ShiftRun} {n m : Nat} (moved : shifted runs n = m)
    (positive : 0 < m) : n = m ∨ n ∈ shiftedTo runs m := by
  induction runs with
  | nil => exact .inl moved
  | cons run rest ih =>
    unfold shifted at moved
    split at moved
    · exact .inl moved
    · split at moved
      · next holds =>
        have origin : ((m : Int) - run.shift).toNat = n := by omega
        refine .inr (List.mem_filterMap.mpr ⟨run, List.mem_cons_self, ?_⟩)
        simp only [origin, holds, if_true]
      · refine (ih moved).imp_right fun member => ?_
        obtain ⟨other, among, made⟩ := List.mem_filterMap.mp member
        exact List.mem_filterMap.mpr ⟨other, List.mem_cons_of_mem _ among, made⟩

def spellings (a : Char) : List Char := a :: (shiftedTo lowerRuns a.toNat).map Char.ofNat

/-- One of the first 128 characters, the very first excepted. -/
def isPlain (a : Char) : Bool := 0 < a.toNat && a.toNat < 128

theorem toNat_of_ofNat_eq {n : Nat} {a : Char} (same : Char.ofNat n = a) (positive : 0 < a.toNat) :
    n = a.toNat := by
  by_cases valid : n.isValidChar
  · rw [Char.ofNat, dif_pos valid] at same
    subst same
    rfl
  · rw [Char.ofNat, dif_neg valid] at same
    subst same
    exact absurd positive (by decide)

theorem mem_spellings {a c : Char} (plain : isPlain a = true) (lowered : lowerChar c = [a]) :
    c ∈ spellings a := by
  have positive : 0 < a.toNat := by
    unfold isPlain at plain
    simp only [Bool.and_eq_true, decide_eq_true_eq] at plain
    exact plain.1
  unfold lowerChar at lowered
  split at lowered
  · cases lowered
  · have moved := toNat_of_ofNat_eq (List.cons.inj lowered).1 positive
    rcases mem_shiftedTo moved positive with same | member
    · exact List.mem_cons.mpr (.inl (Char.toNat_inj.mp same))
    · exact List.mem_cons.mpr (.inr (List.mem_map.mpr ⟨c.toNat, member, Char.ofNat_toNat c⟩))

/-- Neither a sigma nor the dotted I can be part of a plain word. -/
theorem lowerFrom_cons {before rest word : List Char} {c a : Char}
    (plain : ∀ b ∈ a :: word, isPlain b = true)
    (lowered : lowerFrom before (c :: rest) = a :: word) :
    lowerChar c = [a] ∧ lowerFrom (c :: before) rest = word := by
  unfold lowerFrom at lowered
  split at lowered
  · have first : lowerSigma before rest = a := (List.cons.inj lowered).1
    have strange : isPlain (lowerSigma before rest) = false := by
      unfold lowerSigma
      split <;> decide
    rw [first, plain a List.mem_cons_self] at strange
    cases strange
  · by_cases dotted : c = '\u0130'
    · rw [lowerChar, if_pos dotted] at lowered
      obtain ⟨_, tail⟩ := List.cons.inj lowered
      have second := plain '\u0307' (List.mem_cons_of_mem _ (tail ▸ List.mem_cons_self))
      cases second
    · rw [lowerChar, if_neg dotted] at lowered ⊢
      obtain ⟨first, tail⟩ := List.cons.inj lowered
      exact ⟨by rw [first], tail⟩

theorem spelled_of_lowerFrom {before cs word : List Char} (plain : ∀ b ∈ word, isPlain b = true)
    (lowered : lowerFrom before cs = word) :
    List.Forall₂ (fun c a => c ∈ spellings a) cs word := by
  induction cs generalizing before word with
  | nil =>
    cases lowered
    exact .nil
  | cons c rest ih =>
    cases word with
    | nil =>
      unfold lowerFrom at lowered
      obtain ⟨none, _⟩ := List.append_eq_nil_iff.mp lowered
      unfold lowerChar at none
      split at none
      · cases none
      · split at none <;> cases none
    | cons a word =>
      obtain ⟨here, tail⟩ := lowerFrom_cons plain lowered
      exact .cons (mem_spellings (plain a List.mem_cons_self) here)
        (ih (fun b among => plain b (List.mem_cons_of_mem _ among)) tail)

/-- A text that becomes a plain word in lower case is a spelling of that word. -/
theorem spelled_of_lower {cs : List Char} {word : String}
    (plain : ∀ b ∈ word.toList, isPlain b = true) (lowered : lower (String.ofList cs) = word) :
    List.Forall₂ (fun c a => c ∈ spellings a) cs word.toList := by
  have form : lowerFrom [] cs = word.toList := by
    rw [← lowered, lower, String.toList_ofList, String.toList_ofList]
  exact spelled_of_lowerFrom plain form

end Questline.Text
