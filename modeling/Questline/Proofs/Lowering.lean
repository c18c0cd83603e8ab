import Questline.Proofs.LineBreaks

/-! Lower case leaves nothing to be done. What the table of lower-case letters leads to is in no run
of the table again, and no blank and no colon among it, so a character in lower case stays as it is
and a text has its blanks where they were. -/
namespace Questline.Text

/-! ### Where the runs lead -/

namespace ShiftRun

def target (run : ShiftRun) (n : Nat) : Nat := ((n : Int) + run.shift).toNat

/-- Nothing that `run` leads to is in `other`: the two lie apart, or they are interleaved with the
even places of `other` between those of `run`. -/
def clears (run other : ShiftRun) : Bool :=
  let first := run.target run.first
  let last := run.target run.last
  Nat.blt last other.first || Nat.blt other.last first ||
    (Nat.blt 0 first && (run.first == run.last || run.stride == 2) && other.stride == 2 &&
      (first + other.first) % 2 == 1)

theorem holds_iff {run : ShiftRun} {n : Nat} : run.holds n = true ↔
    run.first ≤ n ∧ n ≤ run.last ∧ (n - run.first) % run.stride = 0 := by
  simp [holds, and_assoc]

theorem not_holds_target {run other : ShiftRun} {n : Nat} (clears : run.clears other = true)
    (held : run.holds n = true) : other.holds (run.target n) = false := by
  obtain ⟨low, high, along⟩ := holds_iff.mp held
  rw [Bool.eq_false_iff]
  intro again
  obtain ⟨low', high', along'⟩ := holds_iff.mp again
  simp only [ShiftRun.clears, target, Bool.or_eq_true, Bool.and_eq_true, Nat.blt_eq, beq_iff_eq]
    at clears low' high' along'
  rcases clears with (below | above) | ⟨⟨⟨positive, alone | every⟩, every'⟩, odd⟩
  · omega
  · omega
  · rw [every'] at along'
    omega
  · rw [every] at along
    rw [every'] at along'
    omega

end ShiftRun

theorem shifted_cases (runs : List ShiftRun) (n : Nat) : shifted runs n = n ∨
    ∃ run ∈ runs, run.holds n = true ∧ shifted runs n = run.target n := by
  induction runs with
  | nil => exact .inl rfl
  | cons run rest ih =>
    rw [shifted]
    split
    · exact .inl rfl
    · split
      · next held => exact .inr ⟨run, List.mem_cons_self, held, rfl⟩
      · refine ih.imp_right ?_
        rintro ⟨other, among, moved⟩
        exact ⟨other, List.mem_cons_of_mem _ among, moved⟩

theorem shifted_unheld {runs : List ShiftRun} {n : Nat}
    (unheld : ∀ run ∈ runs, run.holds n = false) : shifted runs n = n := by
  rcases shifted_cases runs n with same | ⟨run, among, held, _⟩
  · exact same
  · rw [unheld run among] at held
    cases held

/-! ### Characters in lower case -/

/-- What no letter becomes in lower case: a letter that has a lower-case form of its own, the
capital dotted I, a blank or the colon. -/
def avoided : List ShiftRun :=
  lowerRuns ++ ⟨0x0130, 0x0130, 1, 0⟩ :: ⟨0x003A, 0x003A, 1, 0⟩ ::
    blankTable.ranges.map fun range => ⟨range.1, range.2, 1, 0⟩

theorem lowerRuns_clear : (lowerRuns.all fun run => avoided.all run.clears) = true := by
  decide +kernel

structure Lowered (c : Char) : Prop where
  fixed : lowerChar c = [c]
  ink : isBlank c = false
  noColon : c ≠ ':'

theorem lowered_of_avoids {c : Char} (avoids : ∀ run ∈ avoided, run.holds c.toNat = false) :
    Lowered c := by
  have apart : ∀ n, ⟨n, n, 1, 0⟩ ∈ avoided → c.toNat ≠ n := by
    rintro n among rfl
    have held : ShiftRun.holds ⟨c.toNat, c.toNat, 1, 0⟩ c.toNat = true := by simp [ShiftRun.holds]
    rw [avoids _ among] at held
    cases held
  constructor
  · have undotted : c ≠ '\u0130' := by
      rintro rfl
      exact apart 0x0130 (by simp [avoided]) rfl
    rw [lowerChar, if_neg undotted,
      shifted_unheld fun run among => avoids run (List.mem_append_left _ among), Char.ofNat_toNat]
  · cases blank : isBlank c with
    | false => rfl
    | true =>
      obtain ⟨range, among, low, high⟩ := search_some blank
      have held : ShiftRun.holds ⟨range.1, range.2, 1, 0⟩ c.toNat = true := by
        simp [ShiftRun.holds, low, high, Nat.mod_one]
      rw [avoids _ (by simp only [avoided, List.mem_append, List.mem_cons, List.mem_map]
                       exact .inr (.inr (.inr ⟨range, among, rfl⟩)))] at held
      cases held
  · rintro rfl
    exact apart 0x003A (by simp [avoided]) rfl

theorem lowered_of_avoided {c : Char}
    (avoids : (avoided.all fun run => !run.holds c.toNat) = true) : Lowered c :=
  lowered_of_avoids fun run among => by simpa using List.all_eq_true.mp avoids run among

/-- Lower case leaves a character as it is or leads to one that it leaves as it is. -/
theorem mem_lowerChar {c d : Char} (among : d ∈ lowerChar c) :
    (d = c ∧ lowerChar c = [c]) ∨ Lowered d := by
  unfold lowerChar at among
  split at among
  · right
    rcases List.mem_cons.mp among with rfl | among
    · exact lowered_of_avoided (by decide +kernel)
    · rw [List.mem_singleton.mp among]
      exact lowered_of_avoided (by decide +kernel)
  · next undotted =>
    rw [List.mem_singleton] at among
    rcases shifted_cases lowerRuns c.toNat with unmoved | ⟨run, member, held, moved⟩
    · rw [unmoved, Char.ofNat_toNat] at among
      exact .inl ⟨among, by rw [lowerChar, if_neg undotted, unmoved, Char.ofNat_toNat]⟩
    · right
      rw [moved] at among
      by_cases valid : (run.target c.toNat).isValidChar
      · apply lowered_of_avoids
        intro other avoided
        have clears := List.all_eq_true.mp lowerRuns_clear run member
        have apart := List.all_eq_true.mp clears other avoided
        have place : d.toNat = run.target c.toNat := by
          rw [among, Char.ofNat, dif_pos valid]
          rfl
        rw [place]
        exact ShiftRun.not_holds_target apart held
      · rw [among, Char.ofNat, dif_neg valid]
        exact lowered_of_avoided (by decide +kernel)

theorem lowered_lowerSigma (before after : List Char) : Lowered (lowerSigma before after) := by
  unfold lowerSigma
  split
  · exact lowered_of_avoided (by decide +kernel)
  · exact lowered_of_avoided (by decide +kernel)

theorem lowerChar_ne_nil (c : Char) : lowerChar c ≠ [] := by
  unfold lowerChar
  split <;> exact List.cons_ne_nil _ _

/-! ### Texts in lower case -/

theorem lowerFrom_first (before rest : List Char) (c : Char) : ∃ form,
    lowerFrom before (c :: rest) = form ++ lowerFrom (c :: before) rest ∧ form ≠ [] ∧
      ∀ d ∈ form, (d = c ∧ lowerChar c = [c]) ∨ Lowered d := by
  rw [lowerFrom]
  split
  · refine ⟨[lowerSigma before rest], rfl, List.cons_ne_nil _ _, fun d among => ?_⟩
    rw [List.mem_singleton.mp among]
    exact .inr (lowered_lowerSigma before rest)
  · exact ⟨lowerChar c, rfl, lowerChar_ne_nil c, fun d among => mem_lowerChar among⟩

theorem mem_lowerFrom {before cs : List Char} {d : Char} (among : d ∈ lowerFrom before cs) :
    (d ∈ cs ∧ lowerChar d = [d]) ∨ Lowered d := by
  induction cs generalizing before with
  | nil => cases among
  | cons c rest ih =>
    obtain ⟨form, whole, _, formed⟩ := lowerFrom_first before rest c
    rw [whole, List.mem_append] at among
    rcases among with here | later
    · refine (formed d here).imp_left ?_
      rintro ⟨rfl, fixed⟩
      exact ⟨List.mem_cons_self, fixed⟩
    · exact (ih later).imp_left fun ⟨among, fixed⟩ => ⟨List.mem_cons_of_mem _ among, fixed⟩

theorem lowerFrom_fixed {before cs : List Char} (fixed : ∀ c ∈ cs, lowerChar c = [c]) :
    lowerFrom before cs = cs := by
  induction cs generalizing before with
  | nil => rfl
  | cons c rest ih =>
    obtain ⟨here, later⟩ := List.forall_mem_cons.mp fixed
    have plain : c ≠ 'Σ' := by
      rintro rfl
      exact absurd here (by decide +kernel)
    rw [lowerFrom, if_neg plain, here, ih later, List.singleton_append]

theorem head_lowerFrom {before cs : List Char} (ink : ∀ c ∈ cs.head?, isBlank c = false) :
    ∀ d ∈ (lowerFrom before cs).head?, isBlank d = false := by
  intro d head
  cases cs with
  | nil => cases head
  | cons c rest =>
    obtain ⟨form, whole, some, formed⟩ := lowerFrom_first before rest c
    rw [whole, List.head?_append_of_ne_nil _ some] at head
    rcases formed d (List.mem_of_head? head) with ⟨rfl, _⟩ | lowered
    · exact ink d rfl
    · exact lowered.ink

theorem last_lowerFrom {before cs : List Char} (ink : ∀ c ∈ cs.getLast?, isBlank c = false) :
    ∀ d ∈ (lowerFrom before cs).getLast?, isBlank d = false := by
  induction cs generalizing before with
  | nil => exact nofun
  | cons c rest ih =>
    intro d last
    obtain ⟨form, whole, _, formed⟩ := lowerFrom_first before rest c
    rw [whole] at last
    cases rest with
    | nil =>
      rw [lowerFrom, List.append_nil] at last
      rcases formed d (List.mem_of_getLast? last) with ⟨rfl, _⟩ | lowered
      · exact ink d rfl
      · exact lowered.ink
    | cons c' rest =>
      obtain ⟨form', whole', some', _⟩ := lowerFrom_first (c :: before) rest c'
      have more : lowerFrom (c :: before) (c' :: rest) ≠ [] := by
        rw [whole']
        exact List.append_ne_nil_of_left_ne_nil some' _
      rw [List.getLast?_append_of_ne_nil _ more] at last
      exact ih (by simpa using ink) d last

/-! ### Blanks behind a text -/

theorem lowerChar_of_isBlank {c : Char} (blank : isBlank c = true) : lowerChar c = [c] := by
  have apart : (lowerChar c != [c]) = false :=
    apart_of_isBlank (p := fun c => lowerChar c != [c]) (by decide +kernel) blank
  simpa using apart

theorem meetsCased_append {cs blanks : List Char} (blank : ∀ c ∈ blanks, isBlank c = true) :
    meetsCased (cs ++ blanks) = meetsCased cs := by
  unfold meetsCased
  rw [List.dropWhile_append]
  cases met : cs.dropWhile isCaseIgnorable with
  | cons c rest => rfl
  | nil =>
    cases blanks with
    | nil => rfl
    | cons c more =>
      have first := blank c List.mem_cons_self
      have stops : isCaseIgnorable c = false := apart_of_isBlank (by decide +kernel) first
      have caseless : isCased c = false := apart_of_isBlank (by decide +kernel) first
      simp [stops, caseless]

/-- Blanks behind a text do not change the form of a sigma in it. -/
theorem lowerFrom_append {before cs blanks : List Char} (blank : ∀ c ∈ blanks, isBlank c = true) :
    lowerFrom before (cs ++ blanks) = lowerFrom before cs ++ blanks := by
  induction cs generalizing before with
  | nil => exact lowerFrom_fixed fun c among => lowerChar_of_isBlank (blank c among)
  | cons c rest ih =>
    rw [List.cons_append, lowerFrom, lowerFrom, ih, lowerSigma, lowerSigma, meetsCased_append blank,
      List.append_assoc]

end Questline.Text
