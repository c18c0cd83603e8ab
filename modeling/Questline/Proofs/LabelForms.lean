import Questline.Proofs.Delimiters
import Questline.Proofs.Lowering
import Questline.Proofs.Reading
import Questline.Proofs.RoundTrip

/-! The forms of a label. A name is trimmed before it is cut at its first colon, so blanks in front
of that colon stay in its form; apart from them the form is its own form, whatever letters it has,
and an entry of a label table is found again under its own name. -/
namespace Questline

open Text

namespace Text

theorem trimChars_eq_self_iff {cs : List Char} : trimChars cs = cs ↔
    (∀ c ∈ cs.head?, isBlank c = false) ∧ ∀ c ∈ cs.getLast?, isBlank c = false := by
  constructor
  · intro trimmed
    constructor
    · rintro c head
      obtain ⟨rest, rfl⟩ := List.head?_eq_some_iff.mp head
      cases blank : isBlank c with
      | false => rfl
      | true =>
        have inside := (trimChars_isInfix rest).length_le
        have shorter := congrArg List.length trimmed
        rw [← trimChars_dropWhile, List.dropWhile_cons_of_pos blank, trimChars_dropWhile,
          List.length_cons] at shorter
        omega
    · rintro c last
      obtain ⟨before, rfl⟩ := List.getLast?_eq_some_iff.mp last
      cases blank : isBlank c with
      | false => rfl
      | true =>
        have inside := (trimChars_isInfix before).length_le
        have shorter := congrArg List.length trimmed
        rw [trimChars_concat blank, List.length_append, List.length_singleton] at shorter
        omega
  · rintro ⟨first, last⟩
    have core := @trimChars_surrounded [] cs [] (by simp) first last
    simpa using core

end Text

namespace Label

/-- What a name holds in front of its first colon, once it is trimmed. -/
def stem (name : String) : List Char := (trimChars name.toList).takeWhile (· ≠ ':')

theorem toList_normalize (name : String) : (normalize name).toList = lowerFrom [] (stem name) := by
  rw [normalize, lower, String.toList_ofList, String.toList_ofList, stem]

/-- Blanks stand in front of the first colon of a name. -/
def Loose (name : String) : Prop := ∃ before blank after,
  trimChars name.toList = before ++ blank :: ':' :: after ∧ ':' ∉ before ∧ isBlank blank = true

theorem head_stem (name : String) : ∀ c ∈ (stem name).head?, isBlank c = false := by
  intro c head
  have ends := (trimChars_eq_self_iff.mp (trimChars_trimChars name.toList)).1
  obtain ⟨rest, whole⟩ := List.head?_eq_some_iff.mp head
  have start : stem name <+: trimChars name.toList := List.takeWhile_prefix _
  obtain ⟨tail, same⟩ := start
  apply ends
  rw [← same, whole]
  rfl

theorem loose_iff {name : String} :
    Loose name ↔ ∃ blank ∈ (stem name).getLast?, isBlank blank = true := by
  constructor
  · rintro ⟨before, blank, after, whole, none, isBlank⟩
    have colon : blank ≠ ':' := by
      rintro rfl
      exact absurd isBlank (by decide)
    refine ⟨blank, ?_, isBlank⟩
    have apart : ∀ c ∈ before, decide (c ≠ ':') = true := by
      intro c among
      simpa using fun same : c = ':' => none (same ▸ among)
    rw [stem, whole, List.takeWhile_append_of_pos apart]
    simp [colon]
  · rintro ⟨blank, last, isBlank⟩
    obtain ⟨before, cut⟩ := List.getLast?_eq_some_iff.mp last
    have whole : stem name ++ (trimChars name.toList).dropWhile (· ≠ ':') = trimChars name.toList :=
      List.takeWhile_append_dropWhile
    cases behind : (trimChars name.toList).dropWhile (· ≠ ':') with
    | nil =>
      -- without a colon the blank would end the trimmed name
      have ends := (trimChars_eq_self_iff.mp (trimChars_trimChars name.toList)).2 blank
      rw [behind, List.append_nil] at whole
      rw [ends (whole ▸ last)] at isBlank
      cases isBlank
    | cons c after =>
      have colon : c = ':' := by
        have stops := List.head?_dropWhile_not (· ≠ ':') (trimChars name.toList)
        rw [behind] at stops
        simpa using stops
      refine ⟨before, blank, after, ?_, ?_, isBlank⟩
      · rw [← whole, cut, behind, colon]
        simp
      · intro among
        have kept : ':' ∈ stem name := by simp [cut, among]
        simpa using List.mem_takeWhile_imp kept

/-- The form of a form is trimmed and nothing else: it has no colon and is in lower case. -/
theorem normalize_normalize (name : String) :
    normalize (normalize name) = trim (normalize name) := by
  have trimmed : ∀ c ∈ trimChars (lowerFrom [] (stem name)), c ∈ lowerFrom [] (stem name) :=
    fun c among => (trimChars_isInfix _).subset among
  have noColon : ∀ c ∈ trimChars (lowerFrom [] (stem name)), decide (c ≠ ':') = true := by
    intro c among
    rcases mem_lowerFrom (trimmed c among) with ⟨kept, _⟩ | lowered
    · exact List.mem_takeWhile_imp (p := (· ≠ ':')) kept
    · simpa using lowered.noColon
  have fixed : ∀ c ∈ trimChars (lowerFrom [] (stem name)), lowerChar c = [c] :=
    fun c among => (mem_lowerFrom (trimmed c among)).elim (·.2) (·.fixed)
  rw [normalize, trim, toList_normalize, List.takeWhile_eq_self_iff.mpr noColon, lower,
    String.toList_ofList, lowerFrom_fixed fixed]

theorem trim_normalize_iff (name : String) :
    trim (normalize name) = normalize name ↔ ¬ Loose name := by
  have chars : trim (normalize name) = normalize name ↔
      trimChars (lowerFrom [] (stem name)) = lowerFrom [] (stem name) := by
    rw [← toList_normalize, trim, ← String.toList_inj, String.toList_ofList]
  rw [chars, trimChars_eq_self_iff, loose_iff]
  constructor
  · rintro ⟨_, last⟩ ⟨blank, ends, isBlank⟩
    obtain ⟨before, cut⟩ := List.getLast?_eq_some_iff.mp ends
    have behind : blank ∈ (lowerFrom [] (stem name)).getLast? := by
      rw [cut, lowerFrom_append (by simpa using isBlank)]
      simp
    rw [last blank behind] at isBlank
    cases isBlank
  · intro tight
    constructor
    · exact head_lowerFrom (head_stem name)
    · apply last_lowerFrom
      intro c ends
      cases blank : isBlank c with
      | false => rfl
      | true => exact absurd ⟨c, ends, blank⟩ tight

theorem normalize_surrounded {before after : String} (name : String)
    (blanks : ∀ c ∈ (before ++ after).toList, isBlank c = true) :
    normalize (before ++ name ++ after) = normalize name := by
  rw [String.toList_append] at blanks
  obtain ⟨ahead, behind⟩ := List.forall_mem_append.mp blanks
  rw [normalize, normalize, String.toList_append, String.toList_append, List.append_assoc,
    ← trimChars_dropWhile, List.dropWhile_append_of_pos ahead, trimChars_dropWhile,
    ← dropWhile_trimEndChars, trimEndChars_append, if_pos (trimEndChars_blanks behind),
    dropWhile_trimEndChars]

/-- What stands between a trimmed name and a colon behind it stays in the form, except behind a name
that has a colon itself and behind no name at all. -/
theorem normalize_colon {before name gap after : String}
    (blanks : ∀ c ∈ (before ++ gap ++ after).toList, isBlank c = true)
    (trimmed : trim name = name) :
    normalize (before ++ name ++ gap ++ ":" ++ after) =
      if ':' ∈ name.toList ∨ name = "" then normalize name else normalize name ++ gap := by
  have parts : ∀ c, c ∈ before.toList ∨ c ∈ gap.toList ∨ c ∈ after.toList → isBlank c = true := by
    intro c among
    exact blanks c (by simpa [or_assoc] using among)
  have cut : trimChars name.toList = name.toList := by
    rw [← String.toList_inj, trim, String.toList_ofList] at trimmed
    exact trimmed
  have gapClear : ':' ∉ gap.toList := by
    intro among
    exact absurd (parts ':' (.inr (.inl among))) (by decide)
  by_cases empty : name = ""
  · -- a colon with nothing but blanks in front of it
    have core : trimChars ((before ++ gap).toList ++ ([':'] ++ after.toList)) = [':'] := by
      apply trimChars_surrounded
      · intro c among
        simp only [String.toList_append, List.mem_append, or_assoc] at among
        exact parts c among
      · rintro c ⟨⟩
        decide
      · rintro c ⟨⟩
        decide
    have whole : (before ++ name ++ gap ++ ":" ++ after).toList =
        (before ++ gap).toList ++ ([':'] ++ after.toList) := by
      simp [empty]
    rw [if_pos (.inr empty), normalize, whole, core, empty]
    rfl
  · obtain ⟨first, _⟩ := trimChars_eq_self_iff.mp cut
    have some : name.toList ≠ [] := by simpa using empty
    have core :
        trimChars (before.toList ++ ((name.toList ++ gap.toList ++ [':']) ++ after.toList)) =
          name.toList ++ gap.toList ++ [':'] := by
      apply trimChars_surrounded
      · intro c among
        exact parts c ((List.mem_append.mp among).imp_right .inr)
      · intro c head
        apply first
        simpa [List.head?_append_of_ne_nil _ some] using head
      · intro c last
        rw [List.getLast?_concat] at last
        cases last
        decide
    have whole : (before ++ name ++ gap ++ ":" ++ after).toList =
        before.toList ++ ((name.toList ++ gap.toList ++ [':']) ++ after.toList) := by
      simp
    rw [normalize, whole, core]
    by_cases colon : ':' ∈ name.toList
    · have stops : ¬ (name.toList.takeWhile (· ≠ ':')).length = name.toList.length := by
        intro all
        have kept := (List.takeWhile_prefix (· ≠ ':')).eq_of_length all
        rw [← kept] at colon
        simpa using List.mem_takeWhile_imp colon
      rw [if_pos (.inl colon), normalize, cut, List.append_assoc, List.takeWhile_append,
        if_neg stops]
    · have clear : ∀ c ∈ name.toList ++ gap.toList, decide (c ≠ ':') = true := by
        intro c among
        have apart : ':' ∉ name.toList ++ gap.toList := by simp [colon, gapClear]
        simpa using fun same : c = ':' => apart (same ▸ among)
      have alone : ∀ c ∈ name.toList, decide (c ≠ ':') = true :=
        fun c among => clear c (List.mem_append_left _ among)
      have behind : lowerFrom [] (name.toList ++ gap.toList) =
          lowerFrom [] name.toList ++ gap.toList :=
        lowerFrom_append fun c among => parts c (.inr (.inl among))
      rw [if_neg (by simp [colon, empty]), normalize, cut, List.takeWhile_append_of_pos clear,
        List.takeWhile_eq_self_iff.mpr alone, ← String.toList_inj]
      simp [lower, behind]

end Label

/-! ### Tables of labels -/

namespace LabelTable

/-- The table that names inserted one after another make, each for its line. -/
def inserted (names : List (String × Nat)) : LabelTable :=
  names.foldl (fun table e => table.insert e.1 e.2) .empty

/-- The entries of a table in ascending order, each made by a name that was inserted. -/
structure Stems (names : List (String × Nat)) (table : LabelTable) : Prop where
  ascends : Dict.Ascends table.toList
  origin : ∀ e ∈ table.toList, ∃ name, (name, e.2) ∈ names ∧ e.1 = Label.normalize name

theorem Stems.insert {names : List (String × Nat)} {table : LabelTable} (stems : Stems names table)
    (e : String × Nat) : Stems (names ++ [e]) (table.insert e.1 e.2) := by
  have earlier : ∀ e' ∈ table.toList,
      ∃ name, (name, e'.2) ∈ names ++ [e] ∧ e'.1 = Label.normalize name := by
    intro e' among
    obtain ⟨name, made, key⟩ := stems.origin e' among
    exact ⟨name, List.mem_append_left _ made, key⟩
  rw [LabelTable.insert]
  split
  · exact ⟨stems.ascends, earlier⟩
  · constructor
    · exact Dict.ascends_place stems.ascends _ _
    · intro e' among
      rcases Dict.mem_place among with rfl | among
      · exact ⟨e.1, List.mem_append_right _ List.mem_cons_self, rfl⟩
      · exact earlier e' among

theorem stems_inserted (names : List (String × Nat)) : Stems names (inserted names) := by
  induction names using List.reverseRecOn with
  | nil => exact ⟨List.Pairwise.nil, fun _ => nofun⟩
  | append_singleton names e ih =>
    rw [inserted, List.foldl_append]
    exact ih.insert e

theorem find_of_mem {entries : List (String × Nat)} (ascends : Dict.Ascends entries) {key : String}
    {index : Nat} (among : (key, index) ∈ entries) : Dict.find key entries = some index := by
  induction entries with
  | nil => cases among
  | cons e rest ih =>
    obtain ⟨first, later⟩ := List.pairwise_cons.mp ascends
    rcases List.mem_cons.mp among with rfl | among
    · simp [Dict.find]
    · have different : e.1 ≠ key := (first _ among).ne
      rw [Dict.find, if_neg different]
      exact ih later among

/-- A table looks for the form of an entry's own name, which is that name unless it ends in blanks.
-/
theorem get?_key {names : List (String × Nat)} {key : String} {index : Nat}
    (among : (key, index) ∈ (inserted names).toList) :
    ∃ name, (name, index) ∈ names ∧ key = Label.normalize name ∧
      (inserted names).get? key = (inserted names).lines.get? (trim key) ∧
      (¬ Label.Loose name → (inserted names).get? key = some index) := by
  obtain ⟨ascends, origin⟩ := stems_inserted names
  obtain ⟨name, made, rfl⟩ := origin _ among
  have trims : (inserted names).get? (Label.normalize name) =
      (inserted names).lines.get? (trim (Label.normalize name)) := by
    rw [LabelTable.get?, Label.normalize_normalize]
  refine ⟨name, made, rfl, trims, fun tight => ?_⟩
  rw [trims, (Label.trim_normalize_iff name).mpr tight]
  exact find_of_mem ascends among

/-- One form for a name with no blanks in front of its first colon, and its entry found again under
that form. Blanks around a name and a colon right behind it select the same entry; blanks between
the name and the colon select another one. -/
theorem found_again_unless_loose (names : List (String × Nat)) :
    (∀ name, Label.normalize (Label.normalize name) = trim (Label.normalize name) ∧
      (Label.normalize (Label.normalize name) = Label.normalize name ↔ ¬ Label.Loose name)) ∧
    (∀ key index, (key, index) ∈ (inserted names).toList →
      ∃ name, (name, index) ∈ names ∧ key = Label.normalize name ∧
        (inserted names).get? key = (inserted names).lines.get? (trim key) ∧
        (¬ Label.Loose name → (inserted names).get? key = some index)) ∧
    ∀ before name gap after : String, (∀ c ∈ (before ++ gap ++ after).toList, isBlank c = true) →
      trim name = name →
      (inserted names).get? (before ++ name ++ after) = (inserted names).get? name ∧
      (inserted names).get? (before ++ name ++ ":" ++ after) = (inserted names).get? name ∧
      (inserted names).get? (before ++ name ++ gap ++ ":" ++ after) =
        if ':' ∈ name.toList ∨ name = "" then (inserted names).get? name
        else (inserted names).lines.get? (Label.normalize name ++ gap) := by
  constructor
  · intro name
    rw [Label.normalize_normalize]
    exact ⟨rfl, Label.trim_normalize_iff name⟩
  constructor
  · exact fun key index among => get?_key among
  · intro before name gap after blanks trimmed
    have outer : ∀ c ∈ (before ++ after).toList, isBlank c = true := by
      intro c among
      apply blanks
      simp only [String.toList_append, List.mem_append] at among ⊢
      exact among.elim (.inl ∘ .inl) .inr
    refine ⟨?_, ?_, ?_⟩
    · rw [LabelTable.get?, Label.normalize_surrounded name outer, LabelTable.get?]
    · have close := @Label.normalize_colon before name "" after (by simpa using outer) trimmed
      rw [String.append_empty, String.append_empty, ite_self] at close
      rw [LabelTable.get?, close, LabelTable.get?]
    · rw [LabelTable.get?, Label.normalize_colon blanks trimmed, LabelTable.get?]
      split <;> rfl

/-- An odd spelling with a sigma at the end of each word, and a loose one beside it. -/
theorem found_again_unless_loose_spelled :
    let table := inserted [("  ΟΔΟΣ: x", 3), ("end :", 7)]
    table.get? "οδος" = some 3 ∧ table.get? "\tοδος: " = table.get? "οδος" ∧
      table.get? "end " = table.lines.get? "end" := by
  intro table
  obtain ⟨_, keys, spellings⟩ := found_again_unless_loose [("  ΟΔΟΣ: x", 3), ("end :", 7)]
  have among : ("οδος", 3) ∈ table.toList := by decide +kernel
  have loose : ("end ", 7) ∈ table.toList := by decide +kernel
  obtain ⟨name, made, key, _, found⟩ := keys "οδος" 3 among
  obtain ⟨_, _, _, trimmed, _⟩ := keys "end " 7 loose
  have blanks : ("\t" ++ "" ++ " ").toList.all isBlank = true := by decide
  obtain ⟨_, colon, _⟩ :=
    spellings "\t" "οδος" "" " " (List.all_eq_true.1 blanks) (by decide +kernel)
  refine ⟨found ?_, colon, ?_⟩
  · rw [← Label.trim_normalize_iff, ← key]
    decide +kernel
  · have cut : trim "end " = "end" := by decide +kernel
    rw [cut] at trimmed
    exact trimmed

/-- With blanks in front of its colon a name has two forms, and the entry made under the one is
looked for under the other. -/
theorem loose_name_lost :
    Label.normalize (Label.normalize "start :") ≠ Label.normalize "start :" ∧
      (inserted [("start :", 3)]).toList = [("start ", 3)] ∧
      (inserted [("start :", 3)]).get? "start " = none ∧
      (inserted [("start", 0)]).get? "start :" = none := by
  decide +kernel

end LabelTable

end Questline
