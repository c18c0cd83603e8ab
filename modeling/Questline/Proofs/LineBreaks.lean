import Questline.Proofs.References

/-! Commands that vanish. The command of a keyword is entered unless its arguments hold a line break
once the references in them are replaced; such a line is passed over in silence. -/
namespace Questline

namespace Text

theorem search_some {ranges : List (Nat × Nat)} {n : Nat}
    (found : RangeTable.search ranges n = true) : ∃ range ∈ ranges, range.1 ≤ n ∧ n ≤ range.2 := by
  induction ranges with
  | nil => cases found
  | cons range rest ih =>
    unfold RangeTable.search at found
    split at found
    · cases found
    · split at found
      · exact ⟨range, List.mem_cons_self, by omega, by omega⟩
      · obtain ⟨other, member, within⟩ := ih found
        exact ⟨other, List.mem_cons_of_mem _ member, within⟩

/-- A class of characters that holds no blank, given that it holds none of those listed. -/
theorem apart_of_isBlank {p : Char → Bool} (apart : (blankTable.ranges.all fun range =>
      (List.range' range.1 (range.2 + 1 - range.1)).all fun n => !p (Char.ofNat n)) = true)
    {c : Char} (blank : isBlank c = true) : p c = false := by
  obtain ⟨range, member, above, below⟩ := search_some blank
  have among := List.all_eq_true.mp (List.all_eq_true.mp apart range member) c.toNat
    (List.mem_range'_1.mpr ⟨above, by omega⟩)
  simpa using among

theorem isWord_of_isBlank {c : Char} (blank : isBlank c = true) : isWord c = false :=
  apart_of_isBlank (by decide +kernel) blank

theorem sign_of_isBlank {c : Char} (blank : isBlank c = true) : c ≠ '%' ∧ c ≠ '$' := by
  constructor
  · rintro rfl
    exact absurd blank (by decide)
  · rintro rfl
    exact absurd blank (by decide)

theorem trimEndChars_append (xs ys : List Char) : trimEndChars (xs ++ ys) =
    if trimEndChars ys = [] then trimEndChars xs else xs ++ trimEndChars ys := by
  simp only [trimEndChars, List.reverse_append, List.dropWhile_append, List.reverse_eq_nil_iff,
    List.isEmpty_iff]
  split
  · rfl
  · simp

theorem trimEndChars_blanks {cs : List Char} (blanks : ∀ c ∈ cs, isBlank c = true) :
    trimEndChars cs = [] := by
  simpa [trimEndChars] using blanks

theorem dropWhile_trimEndChars (cs : List Char) :
    (trimEndChars cs).dropWhile isBlank = trimChars cs := by
  have blanks : ∀ c ∈ cs.takeWhile isBlank, isBlank c = true :=
    fun c member => List.mem_takeWhile_imp member
  have whole : cs.takeWhile isBlank ++ cs.dropWhile isBlank = cs := List.takeWhile_append_dropWhile
  nth_rewrite 1 [← whole]
  rw [trimEndChars_append]
  split
  · next nothing => rw [trimEndChars_blanks blanks, trimChars, nothing]; rfl
  · rw [List.dropWhile_append_of_pos blanks]
    exact dropWhile_trimChars cs

theorem trimChars_keyword {keyword : List Char} (nonempty : keyword ≠ [])
    (solid : ∀ c ∈ keyword, isBlank c = false) (rest : List Char) :
    trimChars (keyword ++ rest) = keyword ++ trimEndChars rest := by
  have start : (keyword ++ rest).dropWhile isBlank = keyword ++ rest := by
    cases keyword with
    | nil => exact absurd rfl nonempty
    | cons c keyword => simp [solid c List.mem_cons_self]
  have ending : trimEndChars keyword = keyword := by
    have last : keyword.reverse.dropWhile isBlank = keyword.reverse := by
      cases reversed : keyword.reverse with
      | nil => rfl
      | cons c before =>
        have member : c ∈ keyword := by
          rw [← List.mem_reverse, reversed]
          exact List.mem_cons_self
        simp [solid c member]
    rw [trimEndChars, last, List.reverse_reverse]
  rw [trimChars, start, trimEndChars_append]
  split
  · next nothing => rw [ending, nothing, List.append_nil]
  · rfl

theorem head_trimEndChars {cs : List Char} {c : Char} (head : c ∈ (trimEndChars cs).head?) :
    c ∈ cs.head? := by
  obtain ⟨tail, whole⟩ : trimEndChars cs <+: cs := List.rdropWhile_prefix isBlank cs
  rw [← whole, List.head?_append_of_ne_nil]
  · exact head
  · rintro nothing
    rw [nothing] at head
    cases head

end Text

open Text

namespace Arguments

section

variable {keyword rest : List Char} (nonempty : keyword ≠ [])
  (solid : ∀ c ∈ keyword, isBlank c = false)
include nonempty solid

theorem splitLine_words (words : ∀ c ∈ keyword, isWord c = true)
    (separated : ∀ c ∈ rest.head?, isBlank c = true) :
    splitLine? (trimChars (keyword ++ rest)) =
      if '\n' ∉ trimChars rest then some (keyword, trimChars rest) else none := by
  -- what is left behind the keyword begins with a blank, if there is any
  have longest : ∀ c ∈ (trimEndChars rest).head?, isWord c = false :=
    fun c head => isWord_of_isBlank (separated c (head_trimEndChars head))
  have arguments := dropWhile_trimEndChars rest
  unfold splitLine?
  rw [trimChars_keyword nonempty solid, takeWhile_words words longest,
    dropWhile_words words longest]
  simp only [List.isEmpty_iff, nonempty, if_false]
  cases ending : trimEndChars rest with
  | nil =>
    rw [ending] at arguments
    simp [← arguments]
  | cons c more =>
    have blank : isBlank c = true := separated c (head_trimEndChars (by rw [ending]; exact rfl))
    rw [ending, List.dropWhile_cons_of_pos blank] at arguments
    simp [blank, arguments]

theorem splitLine_strange (strange : ¬ ∀ c ∈ keyword, isWord c = true) :
    splitLine? (trimChars (keyword ++ rest)) = none := by
  rw [trimChars_keyword nonempty solid]
  obtain ⟨name, after, rfl, named, longest⟩ := split_words keyword
  cases after with
  | nil => exact absurd (by simpa using named) strange
  | cons c after =>
    -- the run of word characters ends inside the keyword, and not at a blank
    have ink : isBlank c = false := solid c (by simp)
    have stops : ∀ d ∈ (c :: (after ++ trimEndChars rest)).head?, isWord d = false := longest
    unfold splitLine?
    rw [List.append_assoc, List.cons_append, takeWhile_words named stops,
      dropWhile_words named stops]
    simp [ink]

theorem splitLine_keyword (separated : ∀ c ∈ rest.head?, isBlank c = true) :
    splitLine? (trimChars (keyword ++ rest)) =
      if keyword.all isWord ∧ '\n' ∉ trimChars rest then some (keyword, trimChars rest)
      else none := by
  by_cases words : ∀ c ∈ keyword, isWord c = true
  · simp only [splitLine_words nonempty solid words separated, List.all_eq_true.mpr words, true_and]
  · rw [splitLine_strange nonempty solid words, if_neg]
    exact fun both => words (List.all_eq_true.mp both.1)

end

end Arguments

/-! ### Expansion behind a keyword -/

namespace Piece

/-- No reference reaches across a character that is neither part of a name nor a percent sign. -/
theorem first_append {c b : Char} {xs ys : List Char} (word : isWord b = false) (sign : b ≠ '%') :
    first c (xs ++ b :: ys) = ((first c xs).1, (first c xs).2 ++ b :: ys) := by
  obtain ⟨name, after, rfl, named, longest⟩ := split_words xs
  have stops : ∀ d ∈ (after ++ b :: ys).head?, isWord d = false := by
    cases after with
    | nil => simpa using word
    | cons d after => exact longest
  unfold first
  rw [List.append_assoc, takeWhile_words named stops, dropWhile_words named stops,
    takeWhile_words named longest, dropWhile_words named longest]
  cases name with
  | nil => split <;> simp
  | cons d name =>
    split
    · cases after <;> grind
    · split <;> simp

theorem all_append {b : Char} {ys : List Char} (word : isWord b = false) (sign : b ≠ '%')
    (xs : List Char) : all (xs ++ b :: ys) = all xs ++ all (b :: ys) := by
  induction xs using all.induct with
  | case1 => simp [all]
  | case2 c rest ih =>
    have cut : all (c :: rest) = (first c rest).1 :: all (first c rest).2 := by rw [all]
    rw [List.cons_append, all, first_append word sign, ih, cut, List.cons_append]

end Piece

theorem expand_keyword {keyword rest : List Char}
    (literal : Piece.all keyword = keyword.map .plain)
    (separated : ∀ c ∈ rest.head?, isBlank c = true) (vars : Variables) (around : Surroundings) :
    (expand vars around (String.ofList (keyword ++ rest))).toList =
      keyword ++ (expand vars around (String.ofList rest)).toList := by
  have pieces : Piece.all (keyword ++ rest) = keyword.map .plain ++ Piece.all rest := by
    cases rest with
    | nil => simp [literal, Piece.all]
    | cons b more =>
      have blank := separated b rfl
      rw [Piece.all_append (isWord_of_isBlank blank) (sign_of_isBlank blank).1, literal]
  have plain : (keyword.map Piece.plain).flatMap (Piece.expand vars around) = keyword := by
    simp [List.flatMap_map, Piece.expand]
  simp only [expand, String.toList_ofList, pieces, List.flatMap_append, plain]

theorem head_expand {rest : List Char} (separated : ∀ c ∈ rest.head?, isBlank c = true)
    (vars : Variables) (around : Surroundings) :
    ∀ c ∈ (expand vars around (String.ofList rest)).toList.head?, isBlank c = true := by
  cases rest with
  | nil => simp [expand, Piece.all]
  | cons b more =>
    have blank := separated b rfl
    have first : Piece.first b more = (.plain b, more) := by
      simp [Piece.first, sign_of_isBlank blank]
    simpa [expand, Piece.all, first, Piece.expand] using blank

/-! ### Builtin keywords -/

theorem Builtin.keyword_isWord (command : Builtin) :
    ∀ a ∈ command.keyword.toList, isWord a = true := by
  have conditionals : ∀ digit : Fin 10, (ifSet digit).keyword.toList.all isWord = true := by
    decide +kernel
  cases command with
  | ifSet digit => exact List.all_eq_true.mp (conditionals digit)
  | _ => exact List.all_eq_true.mp (by decide)

theorem Text.spellings_isWord {a : Char} (plain : isPlain a = true) (word : isWord a = true) :
    ∀ c ∈ spellings a, isWord c = true := by
  have all : ((List.range 128).all fun n =>
      !isWord (Char.ofNat n) || (spellings (Char.ofNat n)).all isWord) = true := by
    decide +kernel
  have below : a.toNat < 128 := by
    simp only [isPlain, Bool.and_eq_true, decide_eq_true_eq] at plain
    exact plain.2
  have spelled := List.all_eq_true.mp all a.toNat (List.mem_range.mpr below)
  rw [Char.ofNat_toNat, word, Bool.not_true, Bool.false_or] at spelled
  exact List.all_eq_true.mp spelled

theorem Text.isWord_of_spelled {cs letters : List Char}
    (spelled : List.Forall₂ (fun c a => c ∈ spellings a) cs letters)
    (plain : ∀ a ∈ letters, isPlain a = true) (words : ∀ a ∈ letters, isWord a = true) :
    ∀ c ∈ cs, isWord c = true := by
  induction spelled with
  | nil => simp
  | @cons c a _ _ spelling _ ih =>
    have first : isWord c = true :=
      spellings_isWord (plain a List.mem_cons_self) (words a List.mem_cons_self) c spelling
    have others := ih (fun a member => plain a (List.mem_cons_of_mem _ member))
      fun a member => words a (List.mem_cons_of_mem _ member)
    simpa [first] using others

theorem CommandTable.isWord_of_standard {keyword : List Char} {action : Action}
    (known : CommandTable.standard.get? (String.ofList keyword) = some action) :
    keyword.all isWord = true := by
  obtain ⟨command, _, lowered⟩ := standard_get known
  have spelled := spelled_of_lower command.keyword_isPlain lowered
  exact List.all_eq_true.mpr
    (isWord_of_spelled spelled command.keyword_isPlain command.keyword_isWord)

/-! ### Whether a command is entered -/

variable {σ : Type} {wake : Wake} [Client σ]

namespace Run

theorem step_of_turn {table : CommandTable} {r q : Run σ} {line : String}
    (turn : r.turn? wake = some (.execute q line)) :
    r.step? table wake = some (conclude (q.execute table line.toList)) := by
  rw [step?, turn, Option.map_some, Turn.complete]

/-- A command whose keyword is in the table is entered if its keyword consists of word characters,
as each builtin keyword does, and its arguments hold no line break once the references in them are
replaced. Otherwise the script goes on to the next line as if there had been no command. -/
theorem command_entered_unless_broken {table : CommandTable} {r q : Run σ} {line : String}
    {command : Command} {keyword rest : List Char} {action : Action}
    (turn : r.turn? wake = some (.execute q line)) (here : q.script.command? = some command)
    (text : command.text = String.ofList (keyword ++ rest)) (nonempty : keyword ≠ [])
    (solid : ∀ c ∈ keyword, isBlank c = false) (separated : ∀ c ∈ rest.head?, isBlank c = true)
    (literal : Piece.all keyword = keyword.map .plain)
    (known : table.get? (String.ofList keyword) = some action) :
    let arguments := trimChars (expand q.script.vars q.around (String.ofList rest)).toList
    (keyword.all isWord = true ∧ '\n' ∉ arguments →
      r.step? table wake = some (conclude (action.run table (q.shown line.toList) arguments))) ∧
    (¬ (keyword.all isWord = true ∧ '\n' ∉ arguments) → r.step? table wake = some q.moveOn) ∧
    (table = .standard → keyword.all isWord = true) := by
  intro arguments
  obtain ⟨same, found, rfl⟩ := line_of_turn turn
  cases here.symm.trans found
  have expanded := expand_keyword literal separated q.script.vars q.around
  have split := Arguments.splitLine_keyword nonempty solid
    (head_expand separated q.script.vars q.around)
  rw [← expanded, ← text] at split
  rw [step_of_turn turn]
  refine ⟨fun unbroken => ?_, fun broken => ?_, ?_⟩
  · rw [if_pos unbroken] at split
    rw [execute_of_split_some split known]
  · rw [if_neg broken] at split
    rw [execute_of_split_none split]
    rfl
  · rintro rfl
    exact CommandTable.isWord_of_standard known

end Run

def spoken (argument : String) : Run MemoryClient :=
  Run.launch ⟨Script.create {} "spoken" (Program.parse "EcHo %1 twice") [argument],
    { client := {} }⟩

/-- What the script is about to execute, if the text of its command is the one above. -/
def spokenLine? (argument : String) : Option (String × String) :=
  match (spoken argument).turn? .message with
  | some (.execute q line) =>
    if q.script.command?.map (·.text) = some "EcHo %1 twice" then
      some (line, expand q.script.vars q.around " %1 twice")
    else none
  | _ => none

theorem spoken_known : CommandTable.standard.get? "EcHo" = some (.builtin .echo) := rfl

theorem spoken_turn {argument line rest : String}
    (ready : spokenLine? argument = some (line, rest)) :
    ∃ q command, (spoken argument).turn? .message = some (.execute q line) ∧
      q.script.command? = some command ∧ command.text = "EcHo %1 twice" ∧
      expand q.script.vars q.around " %1 twice" = rest := by
  unfold spokenLine? at ready
  split at ready
  · next q line turn =>
    split at ready
    · next here =>
      obtain ⟨command, here, text⟩ := Option.map_eq_some_iff.mp here
      cases ready
      exact ⟨q, command, turn, here, text, rfl⟩
    · cases ready
  · cases ready

theorem spoken_broken : ∃ q command,
    (spoken "a\nb").turn? .message = some (.execute q "EcHo a\nb twice") ∧
      q.script.command? = some command ∧ command.text = "EcHo %1 twice" ∧
      expand q.script.vars q.around " %1 twice" = " a\nb twice" :=
  spoken_turn (by decide +kernel)

theorem command_entered_unless_broken_spoken :
    (∃ (q : Run MemoryClient) (line : String),
      (spoken "a\tb").turn? .message = some (.execute q line) ∧
      (spoken "a\tb").step? .standard .message = some (Run.conclude
        (Action.run .standard (q.shown line.toList) "a\tb twice".toList (.builtin .echo)))) ∧
    ∃ (q : Run MemoryClient) (line : String),
      (spoken "a\nb").turn? .message = some (.execute q line) ∧
      (spoken "a\nb").step? .standard .message = some q.moveOn := by
  have whole : "EcHo %1 twice" = String.ofList ("EcHo".toList ++ " %1 twice".toList) := by decide
  have solid : ∀ c ∈ "EcHo".toList, isBlank c = false := by simp; decide
  have separated : ∀ c ∈ " %1 twice".toList.head?, isBlank c = true := by simp; decide
  have literal : Piece.all "EcHo".toList = "EcHo".toList.map .plain := by decide +kernel
  have known : CommandTable.standard.get? (String.ofList "EcHo".toList) =
      some (.builtin .echo) := by
    rw [String.ofList_toList, spoken_known]
  constructor
  · obtain ⟨q, command, turn, here, text, rest⟩ :=
      @spoken_turn "a\tb" "EcHo a\tb twice" " a\tb twice" (by decide +kernel)
    have entered := (Run.command_entered_unless_broken turn here (text.trans whole) (by decide)
      solid separated literal known).1
    rw [String.ofList_toList, rest] at entered
    exact ⟨q, _, turn, entered (by decide +kernel)⟩
  · obtain ⟨q, command, turn, here, text, rest⟩ := spoken_broken
    have passed := (Run.command_entered_unless_broken turn here (text.trans whole) (by decide)
      solid separated literal known).2.1
    rw [String.ofList_toList, rest] at passed
    exact ⟨q, _, turn, passed (by decide +kernel)⟩

/-- A value with a line break makes a command vanish: it is not entered, with whatever arguments,
and there is no warning. -/
theorem echo_vanishes : ∃ (q : Run MemoryClient) (line : String) (command : Command),
    (spoken "a\nb").turn? .message = some (.execute q line) ∧ q.script.command? = some command ∧
    command.text = "EcHo %1 twice" ∧
    CommandTable.standard.get? "EcHo" = some (.builtin .echo) ∧
    (spoken "a\nb").step? .standard .message = some q.moveOn ∧
    q.moveOn.script.log = (spoken "a\nb").script.log ∧
    q.moveOn.script.events = (spoken "a\nb").script.events ∧
    ∀ arguments, (spoken "a\nb").step? .standard .message ≠ some (Run.conclude
      (Action.run .standard (q.shown line.toList) arguments (.builtin .echo))) := by
  obtain ⟨q, command, turn, here, text, _⟩ := spoken_broken
  have step : (spoken "a\nb").step? .standard .message = some q.moveOn := by
    rw [Run.step_of_turn turn, Run.execute_of_split_none (by decide +kernel)]
    rfl
  have kept := (Run.execute_turn turn).2.2.2.2
  have shown : q.script.log.length ≤ (q.shown "EcHo a\nb twice".toList).script.log.length := by
    unfold Run.shown Run.trace
    split <;> simp [Run.note]
  refine ⟨q, _, command, turn, here, text, spoken_known, step, kept .log (by decide),
    kept .events (by decide), fun arguments same => ?_⟩
  -- an echo makes the log longer
  generalize q.shown "EcHo a\nb twice".toList = entered at shown same
  have logs := congrArg (fun r => r.script.log.length) (Option.some.inj (step.symm.trans same))
  simp only [Action.run, Commands.perform, Run.conclude, Run.moveOn, Run.note, List.length_append,
    List.length_singleton] at logs
  omega

end Questline
