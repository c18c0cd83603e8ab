import Mathlib.Data.List.Induction
import Mathlib.Data.List.TakeWhile
import Questline.Proofs.Calls

/-! Programs against their source. A program is read line by line: each line holds a command,
declares a label or holds nothing. The label table and the warnings are those of the label lines in
their order, and a jump leads to the first command after the first line that declares its label. -/
namespace Questline

namespace Text

/-! ### Lines -/

/-- A line without the carriage return that belongs to its end. -/
def dropReturn (cs : List Char) : List Char :=
  if cs.getLast? = some '\r' then cs.dropLast else cs

/-- The lines of a text, each ended by a line feed or by a carriage return and a line feed. The last
one may go without. -/
def endedLines (s : String) : List String :=
  let pieces := s.toList.splitOn '\n'
  (pieces.dropLast.map dropReturn ++ pieces.getLast?.toList.filter (· ≠ [])).map String.ofList

theorem splitOn_cons (c : Char) (cs : List Char) : (c :: cs).splitOn '\n' =
    if c = '\n' then [] :: cs.splitOn '\n' else (cs.splitOn '\n').modifyHead (c :: ·) := by
  simp only [List.splitOn, List.splitOnP_cons_eq_if_modifyHead, beq_iff_eq]

theorem linesChars_eq (cs : List Char) : linesChars cs =
    (cs.splitOn '\n').dropLast ++ (cs.splitOn '\n').getLast?.toList.filter (· ≠ []) := by
  induction cs with
  | nil => rfl
  | cons c rest ih =>
    rw [splitOn_cons, linesChars, ih]
    have some : rest.splitOn '\n' ≠ [] := List.splitOnP_ne_nil _ _
    generalize rest.splitOn '\n' = pieces at some
    split
    · cases pieces with
      | nil => exact absurd rfl some
      | cons first more => simp
    · cases pieces with
      | nil => exact absurd rfl some
      | cons first more =>
        cases more with
        | nil => by_cases empty : first = [] <;> simp [empty]
        | cons second more => simp

theorem trimChars_concat {cs : List Char} {c : Char} (blank : isBlank c = true) :
    trimChars (cs ++ [c]) = trimChars cs := by
  unfold trimChars trimEndChars
  rw [List.dropWhile_append]
  split
  · next empty =>
    rw [List.isEmpty_iff.mp empty]
    simp [blank]
  · rw [List.reverse_append, List.reverse_singleton, List.singleton_append,
      List.dropWhile_cons_of_pos blank]

theorem trimChars_dropReturn (cs : List Char) : trimChars (dropReturn cs) = trimChars cs := by
  unfold dropReturn
  split
  · next ended =>
    obtain ⟨line, rfl⟩ := List.getLast?_eq_some_iff.mp ended
    have blank : isBlank '\r' = true := by decide
    rw [List.dropLast_concat, trimChars_concat blank]
  · rfl

/-- A carriage return at the end of a line makes no difference to a reader who trims it. -/
theorem trim_lines (s : String) :
    (lines s).map (fun line => trimChars line.toList) =
      (endedLines s).map fun line => trimChars line.toList := by
  simp only [lines, endedLines, linesChars_eq, List.map_append, List.map_map, Function.comp_def,
    String.toList_ofList, trimChars_dropReturn]

theorem afterStart_isSome {start cs : List Char} : (afterStart? start cs).isSome ↔ start <+: cs := by
  induction start generalizing cs with
  | nil => simp [afterStart?]
  | cons a start ih =>
    cases cs with
    | nil => simp [afterStart?]
    | cons c cs =>
      by_cases same : a = c
      · simp [afterStart?, same, ih]
      · simp [afterStart?, same]

end Text

open Text

/-! ### What a line holds -/

/-- Nothing but blanks, or a comment. -/
def IsRemark (line : String) : Prop :=
  trimChars line.toList = [] ∨ ['#'] <+: trimChars line.toList ∨
    ['/', '/'] <+: trimChars line.toList

/-- Blanks apart, the line is a name of letters, digits, underscores, points and hyphens and then a
colon. -/
def Declares (line name : String) : Prop :=
  name.toList ≠ [] ∧ (∀ c ∈ name.toList, Line.isLabelChar c = true) ∧
    trimChars line.toList = name.toList ++ [':']

namespace Line

theorem labelName_iff {line name : String} :
    labelName? (trimChars line.toList) = some name ↔ Declares line name := by
  unfold labelName? Declares
  simp only
  constructor
  · intro found
    split at found
    · next shape =>
      cases found
      simp only [Bool.and_eq_true, Bool.not_eq_true', List.isEmpty_eq_false_iff,
        decide_eq_true_eq] at shape
      rw [String.toList_ofList]
      refine ⟨shape.1, fun c member => List.mem_takeWhile_imp member, ?_⟩
      conv_lhs =>
        rw [← List.takeWhile_append_dropWhile (p := isLabelChar) (l := trimChars line.toList),
          shape.2]
    · cases found
  · rintro ⟨some, plain, whole⟩
    have colon : isLabelChar ':' = false := by decide
    have first : (name.toList ++ [':']).takeWhile isLabelChar = name.toList := by
      rw [List.takeWhile_append_of_pos plain, List.takeWhile_cons_of_neg (by simp [colon]),
        List.append_nil]
    have last : (name.toList ++ [':']).dropWhile isLabelChar = [':'] := by
      rw [List.dropWhile_append_of_pos plain, List.dropWhile_cons_of_neg (by simp [colon])]
    rw [whole, first, last, if_pos (by simp [some]), String.ofList_toList]

theorem not_remark_of_declares {line name : String} (declares : Declares line name) :
    ¬ IsRemark line := by
  obtain ⟨some, plain, whole⟩ := declares
  unfold IsRemark
  rw [whole]
  obtain ⟨c, rest, shape⟩ := List.exists_cons_of_ne_nil some
  have labelled := plain c (by rw [shape]; exact List.mem_cons_self)
  rw [shape]
  rintro (empty | hash | slashes)
  · cases empty
  · obtain ⟨tail, same⟩ := hash
    rw [← (List.cons.inj same).1] at labelled
    exact absurd labelled (by decide)
  · obtain ⟨tail, same⟩ := slashes
    rw [← (List.cons.inj same).1] at labelled
    exact absurd labelled (by decide)

theorem read_remark {line : String} (remark : IsRemark line) (index : Nat) :
    read index line = nothing := by
  unfold read IsRemark at *
  simp only [← afterStart_isSome] at remark
  rw [if_pos]
  rcases remark with empty | hash | slashes
  · simp [empty]
  · simp [hash]
  · simp [slashes]

theorem read_other {line : String} (other : ¬ IsRemark line) (index : Nat) : read index line =
    match labelName? (trimChars line.toList) with
    | some name => label name
    | none => command (Command.ofLine index (trim line)) := by
  unfold IsRemark at other
  simp only [← afterStart_isSome, not_or] at other
  obtain ⟨some, noHash, noSlashes⟩ := other
  unfold read
  rw [if_neg (by simp [some, noHash, noSlashes])]
  rfl

theorem read_label {index : Nat} {line name : String} :
    read index line = label name ↔ Declares line name := by
  constructor
  · intro found
    by_cases remark : IsRemark line
    · rw [read_remark remark] at found
      cases found
    · rw [read_other remark] at found
      split at found
      · next here =>
        cases found
        exact labelName_iff.mp here
      · cases found
  · intro declares
    rw [read_other (not_remark_of_declares declares), labelName_iff.mpr declares]

def label? : Line → Option String
  | label name => some name
  | _ => none

theorem label_of_some {line : Line} {name : String} (named : line.label? = some name) :
    line = label name := by
  cases line <;> cases named
  rfl

theorem read_command_none {index : Nat} {line : String} :
    (read index line).command? = none ↔ IsRemark line ∨ ∃ name, Declares line name := by
  by_cases remark : IsRemark line
  · simp [read_remark remark, command?, remark]
  · rw [read_other remark]
    cases found : labelName? (trimChars line.toList) with
    | some name => simp [command?, remark, labelName_iff.mp found, Exists.intro name]
    | none =>
      simp only [command?, reduceCtorEq, remark, false_or, false_iff, not_exists]
      intro name declares
      cases found.symm.trans (labelName_iff.mpr declares)

theorem read_command_some {index : Nat} {line : String} {c : Command}
    (found : (read index line).command? = some c) : c = Command.ofLine index (trim line) := by
  by_cases remark : IsRemark line
  · rw [read_remark remark] at found
    cases found
  · rw [read_other remark] at found
    split at found
    · cases found
    · cases found
      rfl

end Line

/-! ### Labels -/

theorem isLabelChar_inside {c : Char} (labelled : Line.isLabelChar c = true) :
    isBlank c = false ∧ c ≠ ':' := by
  have low : c.toNat < 128 := by
    simp only [Line.isLabelChar, Bool.or_eq_true, Bool.and_eq_true, decide_eq_true_eq] at labelled
    have bound : ∀ a b : Char, a ≤ b → a.toNat ≤ b.toNat := fun a b le => le
    rcases labelled with ((((⟨_, le⟩ | ⟨_, le⟩) | ⟨_, le⟩) | rfl) | rfl) | rfl
    · exact Nat.lt_of_le_of_lt (bound _ _ le) (by decide)
    · exact Nat.lt_of_le_of_lt (bound _ _ le) (by decide)
    · exact Nat.lt_of_le_of_lt (bound _ _ le) (by decide)
    all_goals decide
  have all : ∀ n < 128, Line.isLabelChar (Char.ofNat n) = true →
      isBlank (Char.ofNat n) = false ∧ Char.ofNat n ≠ ':' := by
    decide
  have here := all c.toNat low
  rw [Char.ofNat_toNat] at here
  exact here labelled

theorem Label.normalize_declared {line name : String} (declares : Declares line name) :
    Label.normalize name = lower name := by
  obtain ⟨_, plain, _⟩ := declares
  have solid : ∀ c ∈ name.toList, ¬ isBlank c = true := fun c member => by
    simp [(isLabelChar_inside (plain c member)).1]
  have solidBack : ∀ c ∈ name.toList.reverse, ¬ isBlank c = true := fun c member =>
    solid c (List.mem_reverse.mp member)
  have kept : ∀ cs : List Char, (∀ c ∈ cs, ¬ isBlank c = true) → cs.dropWhile isBlank = cs := by
    intro cs none
    cases cs with
    | nil => rfl
    | cons c rest => exact List.dropWhile_cons_of_neg (none c List.mem_cons_self)
  have trimmed : trimChars name.toList = name.toList := by
    rw [trimChars, trimEndChars, kept _ solid, kept _ solidBack, List.reverse_reverse]
  have whole : name.toList.takeWhile (· ≠ ':') = name.toList := by
    rw [List.takeWhile_eq_self_iff]
    intro c member
    simp [(isLabelChar_inside (plain c member)).2]
  rw [Label.normalize, trimmed, whole, String.ofList_toList]

theorem Dict.size_insert {α : Type} {d : Dict α} {name : String} (absent : d.get? name = none)
    (value : α) : (d.insert name value).size = d.size + 1 := by
  have placed : ∀ es : List (String × α), Dict.find name es = none →
      (Dict.place name value es).length = es.length + 1 := by
    intro es
    induction es with
    | nil => exact fun _ => rfl
    | cons e rest ih =>
      intro absent
      simp only [Dict.find] at absent
      split at absent
      · cases absent
      · next different =>
        simp only [Dict.place, if_neg different]
        split
        · rfl
        · simp [ih absent]
  exact placed d.entries absent

namespace Program

/-- The labels that lines declare, with the indexes of the lines, of which the first one is given.
-/
def declared (index : Nat) (lines : List Line) : List (Nat × String) :=
  (lines.zipIdx index).filterMap fun entry => entry.1.label?.map (entry.2, ·)

theorem mem_declared {i : Nat} {name : String} {lines : List Line} :
    (i, name) ∈ declared 0 lines ↔ lines[i]? = some (.label name) := by
  simp only [declared, List.mem_filterMap, Option.map_eq_some_iff, Prod.mk.injEq]
  constructor
  · rintro ⟨⟨line, j⟩, member, other, named, rfl, rfl⟩
    rw [← Line.label_of_some named]
    exact List.mem_zipIdx_iff_getElem?.mp member
  · intro found
    exact ⟨(.label name, i), List.mem_zipIdx_iff_getElem?.mpr found, name, rfl, rfl, rfl⟩

theorem declared_ascends (index : Nat) (lines : List Line) :
    (declared index lines).Pairwise fun a b => a.1 < b.1 := by
  have numbered : (lines.zipIdx index).Pairwise fun a b => a.2 < b.2 := by
    have ascending := List.pairwise_lt_range' (s := index) (n := lines.length)
    rw [← List.zipIdx_map_snd index lines, List.pairwise_map] at ascending
    exact ascending
  refine numbered.filterMap _ ?_
  intro a b before x here y there
  obtain ⟨_, _, rfl⟩ := Option.map_eq_some_iff.mp here
  obtain ⟨_, _, rfl⟩ := Option.map_eq_some_iff.mp there
  exact before

theorem declareAll_eq (found : LabelTable × List Fault) (index : Nat) (lines : List Line) :
    declareAll found index lines =
      (declared index lines).foldl (fun found d => declare found d.1 (.label d.2)) found := by
  induction lines generalizing found index with
  | nil => rfl
  | cons line rest ih => cases line <;> exact ih _ _

/-- What is said about a label that has been declared before. -/
def repetition (d : Nat × String) : Fault :=
  { cause := .duplicateLabel d.2, line := some (d.1 + 1), severity := .warning }

/-- Whether a label has been declared on an earlier line, in whatever letter case. -/
def isRepeated (ds : List (Nat × String)) (d : Nat × String) : Bool :=
  ds.any fun earlier => decide (earlier.1 < d.1) && decide (lower earlier.2 = lower d.2)

theorem isRepeated_snoc {ds : List (Nat × String)} {d last : Nat × String} (notAfter : d.1 ≤ last.1) :
    isRepeated (ds ++ [last]) d = isRepeated ds d := by
  have outside : decide (last.1 < d.1) = false := decide_eq_false (Nat.not_lt.mpr notAfter)
  simp [isRepeated, outside]

/-- The table and the warnings that a list of declarations gives. -/
structure Registers (ds : List (Nat × String)) (found : LabelTable × List Fault) : Prop where
  lines : ∀ key, found.1.lines.get? key = (ds.find? fun d => lower d.2 = key).map (·.1)
  warnings : found.2 = (ds.filter (isRepeated ds)).map repetition
  total : found.1.size + found.2.length = ds.length

theorem Registers.snoc {ds : List (Nat × String)} {found : LabelTable × List Fault}
    (registers : Registers ds found) {d : Nat × String} (above : ∀ earlier ∈ ds, earlier.1 < d.1)
    (plain : Label.normalize d.2 = lower d.2) :
    Registers (ds ++ [d]) (declare found d.1 (.label d.2)) := by
  have before : ds.filter (isRepeated (ds ++ [d])) = ds.filter (isRepeated ds) :=
    List.filter_congr fun earlier member => isRepeated_snoc (Nat.le_of_lt (above earlier member))
  have known : found.1.get? d.2 = (ds.find? fun e => lower e.2 = lower d.2).map (·.1) := by
    rw [LabelTable.get?, plain]
    exact registers.lines _
  have total := registers.total
  simp only [declare]
  by_cases declared : found.1.contains d.2 = true
  · -- the label is there already, so that the table stays as it is
    have present : (ds.find? fun e => lower e.2 = lower d.2).isSome := by
      rw [LabelTable.contains, known, Option.isSome_map] at declared
      exact declared
    have again : isRepeated (ds ++ [d]) d = true := by
      obtain ⟨e, member, same⟩ := List.find?_isSome.mp present
      rw [isRepeated_snoc (Nat.le_refl _), isRepeated, List.any_eq_true]
      exact ⟨e, member, by simp [above e member, of_decide_eq_true same]⟩
    rw [if_pos declared]
    refine ⟨fun key => ?_, ?_, ?_⟩
    · rw [registers.lines, List.find?_append]
      by_cases same : lower d.2 = key
      · subst same
        obtain ⟨e, here⟩ := Option.isSome_iff_exists.mp present
        simp [here]
      · simp [same]
    · rw [List.filter_append, before, List.filter_cons_of_pos again, registers.warnings,
        List.map_append]
      rfl
    · simp only [List.length_append, List.length_singleton]
      omega
  · have absent : (ds.find? fun e => lower e.2 = lower d.2) = none := by
      rw [LabelTable.contains, known, Option.isSome_map] at declared
      simpa using declared
    have first : isRepeated (ds ++ [d]) d = false := by
      rw [isRepeated_snoc (Nat.le_refl _), isRepeated, List.any_eq_false]
      intro e member
      have different := List.find?_eq_none.mp absent e member
      simp only [Bool.and_eq_true, not_and]
      exact fun _ => different
    rw [if_neg declared]
    have inserted : found.1.insert d.2 d.1 = ⟨found.1.lines.insert (lower d.2) d.1⟩ := by
      rw [LabelTable.insert, if_neg declared, plain]
    rw [inserted]
    refine ⟨fun key => ?_, ?_, ?_⟩
    · simp only [Dict.get?_insert, List.find?_append]
      by_cases same : key = lower d.2
      · simp [same, absent]
      · simp [same, Ne.symm same, registers.lines]
    · rw [List.filter_append, before, List.filter_cons_of_neg (by simp [first]),
        registers.warnings, List.filter_nil, List.append_nil]
    · have fresh : found.1.lines.get? (lower d.2) = none := by
        rw [registers.lines, absent]
        rfl
      simp only [LabelTable.size, Dict.size_insert fresh, List.length_append,
        List.length_singleton] at total ⊢
      omega

theorem registers_foldl {ds : List (Nat × String)} (ascends : ds.Pairwise fun a b => a.1 < b.1)
    (plain : ∀ d ∈ ds, Label.normalize d.2 = lower d.2) :
    Registers ds (ds.foldl (fun found d => declare found d.1 (.label d.2)) (.empty, [])) := by
  induction ds using List.reverseRecOn with
  | nil => exact ⟨fun _ => rfl, rfl, rfl⟩
  | append_singleton ds d ih =>
    obtain ⟨earlier, _, above⟩ := List.pairwise_append.mp ascends
    rw [List.foldl_append]
    refine Registers.snoc (ih earlier ?_) ?_ ?_
    · exact fun e member => plain e (List.mem_append_left _ member)
    · exact fun e member => above e member d List.mem_cons_self
    · exact plain d (List.mem_append_right _ List.mem_cons_self)

/-! ### The program of a text -/

theorem parse_eq (source : String) :
    parse source = ofLines ((endedLines source).mapIdx Line.read) := by
  have read : ∀ (first second : List String),
      first.map (fun line => trimChars line.toList) = second.map (fun line => trimChars line.toList) →
        first.mapIdx Line.read = second.mapIdx Line.read := by
    intro first second same
    refine List.ext_getElem? fun i => ?_
    have here := congrArg (·[i]?) same
    simp only [List.getElem?_map, List.getElem?_mapIdx] at here ⊢
    cases one : first[i]? <;> cases other : second[i]? <;> simp only [one, other] at here ⊢
    · cases here
    · cases here
    · simp only [Option.map_some, Option.some.injEq] at here ⊢
      simp only [Line.read, here]
  rw [parse, read _ _ (trim_lines source)]

def labelLines (source : String) : List (Nat × String) :=
  declared 0 ((endedLines source).mapIdx Line.read)

theorem mem_labelLines {source : String} {i : Nat} {name : String} :
    (i, name) ∈ labelLines source ↔
      ∃ line, (endedLines source)[i]? = some line ∧ Declares line name := by
  rw [labelLines, mem_declared, List.getElem?_mapIdx, Option.map_eq_some_iff]
  simp only [Line.read_label]

theorem parse_registers (source : String) :
    Registers (labelLines source) ((parse source).labels, (parse source).warnings) := by
  have plain : ∀ d ∈ labelLines source, Label.normalize d.2 = lower d.2 := by
    rintro ⟨i, name⟩ member
    obtain ⟨line, _, declares⟩ := mem_labelLines.mp member
    exact Label.normalize_declared declares
  have registers := registers_foldl (declared_ascends 0 _) plain
  rw [← declareAll_eq] at registers
  rw [parse_eq]
  exact registers

theorem command_parse (source : String) (i : Nat) : (parse source).command? i =
    (endedLines source)[i]?.bind fun line => (Line.read i line).command? := by
  rw [parse_eq]
  simp only [ofLines, command?, List.getElem?_map, List.getElem?_mapIdx]
  cases (endedLines source)[i]? <;> rfl

/-- The first of some lines that declares a label that reads so in lower case. -/
def IsFirstLabel (lines : List String) (key : String) (i : Nat) : Prop :=
  (∃ line name, lines[i]? = some line ∧ Declares line name ∧ lower name = key) ∧
    ∀ j < i, ∀ line name, lines[j]? = some line → Declares line name → lower name ≠ key

theorem get_labels_iff {source key : String} {i : Nat} :
    (parse source).labels.lines.get? key = some i ↔ IsFirstLabel (endedLines source) key i := by
  rw [(parse_registers source).lines, Option.map_eq_some_iff]
  have ascends : (labelLines source).Pairwise fun a b => a.1 < b.1 := declared_ascends 0 _
  constructor
  · rintro ⟨⟨i, name⟩, found, rfl⟩
    obtain ⟨here, before, after, whole, different⟩ := List.find?_eq_some_iff_append.mp found
    have member : (i, name) ∈ labelLines source := by
      rw [whole]
      simp
    obtain ⟨line, at_, declares⟩ := mem_labelLines.mp member
    refine ⟨⟨line, name, at_, declares, of_decide_eq_true here⟩, ?_⟩
    intro j below line' name' at' declares' same
    have other := mem_labelLines.mpr ⟨line', at', declares'⟩
    rw [whole] at other ascends
    have later := (List.pairwise_cons.mp (List.pairwise_append.mp ascends).2.1).1
    rcases List.mem_append.mp other with earlier | behind
    · have no := different _ earlier
      simp [same] at no
    · rcases List.mem_cons.mp behind with this | behind
      · cases this
        exact Nat.lt_irrefl _ below
      · have := later _ behind
        simp only at this
        omega
  · rintro ⟨⟨line, name, at_, declares, same⟩, first⟩
    have member := mem_labelLines.mpr ⟨line, at_, declares⟩
    have present : ((labelLines source).find? fun d => lower d.2 = key).isSome :=
      List.find?_isSome.mpr ⟨_, member, by simp [same]⟩
    obtain ⟨⟨j, other⟩, found⟩ := Option.isSome_iff_exists.mp present
    refine ⟨_, found, ?_⟩
    obtain ⟨here, before, after, whole, different⟩ := List.find?_eq_some_iff_append.mp found
    have least : ¬ j < i := by
      intro below
      have among : (j, other) ∈ labelLines source := by
        rw [whole]
        simp
      obtain ⟨line', at', declares'⟩ := mem_labelLines.mp among
      exact first j below line' other at' declares' (of_decide_eq_true here)
    rw [whole] at member ascends
    have later := (List.pairwise_cons.mp (List.pairwise_append.mp ascends).2.1).1
    rcases List.mem_append.mp member with earlier | behind
    · have no := different _ earlier
      simp [same] at no
    · rcases List.mem_cons.mp behind with this | behind
      · cases this
        rfl
      · have := later _ behind
        simp only at this
        omega

theorem firstAt_label {source key : String} {i : Nat}
    (first : IsFirstLabel (endedLines source) key i) :
    (parse source).IsFirstFrom (i + 1) ((parse source).firstAt? i) := by
  obtain ⟨⟨line, name, at_, declares, _⟩, _⟩ := first
  have hole : (parse source).command? i = none := by
    rw [command_parse, at_]
    exact Line.read_command_none.mpr (.inr ⟨name, declares⟩)
  rw [firstAt_of_none hole]
  exact (parse source).firstAt_isFirstFrom (i + 1)

/-- Where a jump to a label leads by the lines of a text: to the first command after the line that
declares the label, or else after the one that declares the label of the error handler. -/
inductive Leads (lines : List String) (p : Program) (label : String) : Except Fault JumpTarget → Prop
  | declared {i : Nat} {line : Option Nat}
      (first : IsFirstLabel lines (Label.normalize label) i) (next : p.IsFirstFrom (i + 1) line) :
      Leads lines p label (.ok ⟨line, false⟩)
  | fallback {i : Nat} {line : Option Nat}
      (undeclared : ∀ i, ¬ IsFirstLabel lines (Label.normalize label) i)
      (first : IsFirstLabel lines "labelerror" i) (next : p.IsFirstFrom (i + 1) line) :
      Leads lines p label (.ok ⟨line, true⟩)
  | nowhere {f : Fault} (undeclared : ∀ i, ¬ IsFirstLabel lines (Label.normalize label) i)
      (unhandled : ∀ i, ¬ IsFirstLabel lines "labelerror" i) (fatal : f.isFatal = true)
      (code : f.code = "ENGINE_LABEL_UNDEFINED") : Leads lines p label (.error f)

theorem resolve_leads (source label : String) :
    Leads (endedLines source) (parse source) label ((parse source).resolve label) := by
  have normal : Label.normalize errorLabel = "labelerror" := by decide +kernel
  have absent : ∀ {key}, (parse source).labels.lines.get? key = none →
      ∀ i, ¬ IsFirstLabel (endedLines source) key i := by
    intro key missing i first
    cases missing.symm.trans (get_labels_iff.mpr first)
  unfold resolve
  split
  · next i found =>
    have first := get_labels_iff.mp found
    exact .declared first (firstAt_label first)
  · next missing =>
    split
    · next i found =>
      rw [LabelTable.get?, normal] at found
      have first := get_labels_iff.mp found
      exact .fallback (absent missing) first (firstAt_label first)
    · next unhandled =>
      rw [LabelTable.get?, normal] at unhandled
      exact .nowhere (absent missing) (absent unhandled) rfl rfl

/-- A program says what its source says, line by line. There is one entry for each line, which is
absent where the line is blank, a comment or a label line, and else holds the trimmed line; each
label line gives an entry of the label table or, if its label was declared before, a warning; and a
jump leads to the command after the first line that declares its label. -/
theorem parse_reads_source (source : String) :
    (parse source).commands.length = (endedLines source).length ∧
    (∀ i line, (endedLines source)[i]? = some line →
      ((parse source).command? i = none ↔ IsRemark line ∨ ∃ name, Declares line name) ∧
      ∀ c, (parse source).command? i = some c → c.text = trim line ∧ c.lineNumber = i + 1) ∧
    (∃ ds : List (Nat × String), ds.Pairwise (fun a b => a.1 < b.1) ∧
      (∀ i name, (i, name) ∈ ds ↔
        ∃ line, (endedLines source)[i]? = some line ∧ Declares line name) ∧
      (parse source).labels.size + (parse source).warnings.length = ds.length ∧
      (parse source).warnings = (ds.filter (isRepeated ds)).map repetition ∧
      ∀ f ∈ (parse source).warnings, f.code = "PARSE_DUPLICATE_LABEL") ∧
    ∀ label, Leads (endedLines source) (parse source) label ((parse source).resolve label) := by
  refine ⟨?_, ?_, ?_, resolve_leads source⟩
  · rw [parse_eq]
    simp [ofLines]
  · intro i line here
    rw [command_parse, here, Option.bind_some]
    refine ⟨Line.read_command_none, fun c found => ?_⟩
    rw [Line.read_command_some found]
    exact ⟨rfl, rfl⟩
  · have registers := parse_registers source
    have warnings : (parse source).warnings = _ := registers.warnings
    refine ⟨labelLines source, declared_ascends 0 _, fun i name => mem_labelLines, registers.total,
      warnings, ?_⟩
    intro f member
    rw [warnings] at member
    obtain ⟨d, _, rfl⟩ := List.mem_map.mp member
    rfl

/-- A text with a label that is declared twice and named in a comment. -/
def twice : String := "Start:\r\n# start:\r\nSTART:\n  echo hi  \nlabelerror:"

theorem parse_reads_source_twice :
    (parse twice).commands.length = 5 ∧ ∃ c, (parse twice).command? 3 = some c ∧
      c.text = "echo hi" ∧ c.lineNumber = 4 := by
  obtain ⟨size, entries, _⟩ := parse_reads_source twice
  have facts : (endedLines twice).length = 5 ∧ (endedLines twice)[3]? = some "  echo hi  " ∧
      ((parse twice).command? 3).isSome ∧ trim "  echo hi  " = "echo hi" := by
    decide +kernel
  obtain ⟨number, line, present, trimmed⟩ := facts
  obtain ⟨c, found⟩ := Option.isSome_iff_exists.mp present
  obtain ⟨text, place⟩ := (entries 3 _ line).2 c found
  exact ⟨size.trans number, c, found, text.trans trimmed, place⟩

end Program

end Questline
