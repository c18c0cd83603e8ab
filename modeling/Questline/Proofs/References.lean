import Questline.Proofs.Entry
import Questline.Proofs.Roundtime

/-! What a reference is. A text is cut into references and single characters from left to right, in
exactly one way; each reference is replaced by what it stands for, and what is put in its place is
not looked at again. -/
namespace Questline

namespace Text

/-- The longest run of word characters at the start of a text. -/
theorem split_words (text : List Char) : ∃ name after, text = name ++ after ∧
    (∀ c ∈ name, isWord c = true) ∧ ∀ c ∈ after.head?, isWord c = false := by
  refine ⟨text.takeWhile isWord, text.dropWhile isWord, ?_, ?_, ?_⟩
  · exact List.takeWhile_append_dropWhile.symm
  · exact fun c member => List.mem_takeWhile_imp member
  · intro c head
    simpa [Option.mem_def.mp head] using List.head?_dropWhile_not isWord text

section

variable {name after : List Char} (words : ∀ c ∈ name, isWord c = true)
  (longest : ∀ c ∈ after.head?, isWord c = false)
include words longest

theorem takeWhile_words : (name ++ after).takeWhile isWord = name := by
  rw [List.takeWhile_append_of_pos words]
  cases after with
  | nil => simp
  | cons c rest => simp [longest c rfl]

theorem dropWhile_words : (name ++ after).dropWhile isWord = after := by
  rw [List.dropWhile_append_of_pos words]
  cases after with
  | nil => simp
  | cons c rest => simp [longest c rfl]

end

end Text

open Text

namespace Piece

/-! ### The cut of a text -/

def IsName (name : List Char) : Prop := name ≠ [] ∧ ∀ c ∈ name, isWord c = true

/-- A text that begins with a name and a percent sign right behind it. -/
def Closes (text : List Char) : Prop := ∃ name after, IsName name ∧ text = name ++ '%' :: after

/-- The first piece of a text and what follows it. -/
inductive Begins : List Char → Piece → List Char → Prop
  -- a percent sign is no word character, so the name is as long as it can be
  | enclosed {name after : List Char} (named : IsName name) :
      Begins ('%' :: (name ++ '%' :: after)) (.wide name ('%' :: (name ++ ['%']))) after
  | digit {d : Char} {after : List Char} (decimal : isDecimal d = true)
      (unclosed : ¬ Closes (d :: after)) : Begins ('%' :: d :: after) (.wide [d] ['%', d]) after
  | dollar {name after : List Char} (named : IsName name)
      (longest : ∀ c ∈ after.head?, isWord c = false) :
      Begins ('$' :: (name ++ after)) (.shared name ('$' :: name)) after
  | copied {c : Char} {after : List Char}
      (percent : c = '%' → ¬ Closes after ∧ ∀ d ∈ after.head?, isDecimal d = false)
      (dollar : c = '$' → ∀ d ∈ after.head?, isWord d = false) :
      Begins (c :: after) (.plain c) after

inductive Cuts : List Char → List Piece → Prop
  | done : Cuts [] []
  | piece {text after : List Char} {p : Piece} {pieces : List Piece} (begins : Begins text p after)
      (further : Cuts after pieces) : Cuts text (p :: pieces)

theorem isWord_of_isDecimal {c : Char} (decimal : isDecimal c = true) : isWord c = true := by
  simp [isWord, decimal]

/-- Where no second percent sign follows, only the first character counts. -/
theorem first_unclosed {d : Char} {after : List Char} (word : isWord d = true)
    (unclosed : ¬ Closes (d :: after)) : first '%' (d :: after) =
      if isDecimal d then (.wide [d] ['%', d], after) else (.plain '%', d :: after) := by
  obtain ⟨name, behind, rfl, named, longest⟩ := split_words after
  have words : ∀ c ∈ d :: name, isWord c = true := by simpa [word] using named
  have whole : d :: (name ++ behind) = (d :: name) ++ behind := rfl
  unfold first
  rw [whole, takeWhile_words words longest, dropWhile_words words longest]
  simp only [↓reduceIte]
  split
  · exact absurd ⟨_, _, ⟨by simp, words⟩, rfl⟩ unclosed
  · next same _ => cases same; rfl
  · next same => cases same

theorem first_of_begins {c : Char} {rest after : List Char} {p : Piece}
    (begins : Begins (c :: rest) p after) : first c rest = (p, after) := by
  generalize whole : c :: rest = text at begins
  cases begins with
  | @enclosed name _ named =>
    cases whole
    have percent : ∀ c ∈ ('%' :: after).head?, isWord c = false := by simp; decide
    unfold first
    rw [takeWhile_words named.2 percent, dropWhile_words named.2 percent]
    cases name with
    | nil => exact absurd rfl named.1
    | cons d name => rfl
  | digit decimal unclosed =>
    cases whole
    rw [first_unclosed (isWord_of_isDecimal decimal) unclosed, if_pos decimal]
  | @dollar name _ named longest =>
    cases whole
    unfold first
    rw [takeWhile_words named.2 longest, dropWhile_words named.2 longest]
    cases name with
    | nil => exact absurd rfl named.1
    | cons d name => rfl
  | copied percent dollar =>
    cases whole
    cases rest with
    | nil => simp [first]
    | cons d rest =>
      by_cases atPercent : c = '%'
      · obtain ⟨unclosed, notDecimal⟩ := percent atPercent
        subst atPercent
        by_cases word : isWord d = true
        · rw [first_unclosed word unclosed, notDecimal d rfl, if_neg Bool.false_ne_true]
        · simp [first, word]
      · by_cases atDollar : c = '$'
        · simp [first, atDollar, dollar atDollar d rfl]
        · simp [first, atPercent, atDollar]

theorem begins_total (c : Char) (rest : List Char) : ∃ p after, Begins (c :: rest) p after := by
  by_cases percent : c = '%'
  · subst percent
    by_cases closes : Closes rest
    · obtain ⟨name, after, named, rfl⟩ := closes
      exact ⟨_, _, .enclosed named⟩
    · by_cases decimal : ∃ d ∈ rest.head?, isDecimal d = true
      · obtain ⟨d, head, decimal⟩ := decimal
        obtain ⟨after, rfl⟩ := List.head?_eq_some_iff.mp head
        exact ⟨_, _, .digit decimal closes⟩
      · simp only [not_exists, not_and, Bool.not_eq_true] at decimal
        exact ⟨_, _, .copied (fun _ => ⟨closes, decimal⟩) (by simp)⟩
  · by_cases dollar : c = '$'
    · subst dollar
      obtain ⟨name, after, rfl, named, longest⟩ := split_words rest
      by_cases nonempty : name = []
      · subst nonempty
        exact ⟨_, _, .copied (by simp) fun _ => longest⟩
      · exact ⟨_, _, .dollar ⟨nonempty, named⟩ longest⟩
    · exact ⟨_, _, .copied (fun here => absurd here percent) fun here => absurd here dollar⟩

theorem begins_first (c : Char) (rest : List Char) :
    Begins (c :: rest) (first c rest).1 (first c rest).2 := by
  obtain ⟨p, after, begins⟩ := begins_total c rest
  rw [first_of_begins begins]
  exact begins

theorem cuts_iff {text : List Char} {pieces : List Piece} :
    Cuts text pieces ↔ pieces = all text := by
  constructor
  · -- every piece of a cut is the one that the scan finds at its place
    intro cuts
    induction cuts with
    | done => rw [all]
    | @piece text _ _ _ begins _ ih =>
      cases text with
      | nil => cases begins
      | cons c rest => rw [all, first_of_begins begins, ih]
  · -- along the recursion of the scan, which goes on behind each piece
    rintro rfl
    induction text using all.induct with
    | case1 =>
      rw [all]
      exact .done
    | case2 c rest ih =>
      rw [all]
      exact .piece (begins_first c rest) ih

/-! ### What pieces become -/

def written : Piece → List Char
  | plain c => [c]
  | wide _ written | shared _ written => written

/-- What a reference stands for: a local where it finds locals, then a special variable, then a
global. -/
def value? (vars : Variables) (around : Surroundings) : Piece → Option Value
  | plain _ => none
  | wide name _ =>
    vars.locals.get? (String.ofList name) <|>
      (vars.specials.get? (String.ofList name)).map (Variables.readSpecial around) <|>
      (around.globals.get? (String.ofList name)).map .text
  | shared name _ =>
    (vars.specials.get? (String.ofList name)).map (Variables.readSpecial around) <|>
      (around.globals.get? (String.ofList name)).map .text

def replaced (vars : Variables) (around : Surroundings) (p : Piece) : List Char :=
  ((p.value? vars around).map fun value => value.display.toList).getD p.written

theorem expand_eq_replaced (vars : Variables) (around : Surroundings) (p : Piece) :
    p.expand vars around = p.replaced vars around := by
  cases p with
  | plain c => rfl
  | wide name _ =>
    simp only [expand, replaced, value?, Variables.lookup?, Variables.get?]
    cases vars.locals.get? (String.ofList name) with
    | some value => rfl
    | none => cases vars.specials.get? (String.ofList name) <;> rfl
  | shared name _ =>
    simp only [expand, replaced, value?, Variables.get?]
    cases vars.specials.get? (String.ofList name) <;> rfl

theorem written_of_begins {text after : List Char} {p : Piece} (begins : Begins text p after) :
    p.written ++ after = text := by
  cases begins <;> simp [written]

theorem written_of_cuts {text : List Char} {pieces : List Piece} (cuts : Cuts text pieces) :
    pieces.flatMap written = text := by
  induction cuts with
  | done => rfl
  | piece begins _ ih => rw [List.flatMap_cons, ih, written_of_begins begins]

theorem replaced_of_unresolved {vars : Variables} {around : Surroundings} {p : Piece}
    (unresolved : p.value? vars around = none) : p.replaced vars around = p.written := by
  rw [replaced, unresolved, Option.map_none, Option.getD_none]

theorem expand_of_cuts {text : String} {pieces : List Piece} (cuts : Cuts text.toList pieces)
    (vars : Variables) (around : Surroundings) :
    (Questline.expand vars around text).toList = pieces.flatMap (replaced vars around) := by
  rw [Questline.expand, String.toList_ofList, cuts_iff.mp cuts]
  congr 1
  funext p
  exact expand_eq_replaced vars around p

theorem expand_unresolved {text : String} {pieces : List Piece} (cuts : Cuts text.toList pieces)
    {vars : Variables} {around : Surroundings}
    (unresolved : ∀ p ∈ pieces, p.value? vars around = none) :
    Questline.expand vars around text = text := by
  rw [← String.toList_inj, expand_of_cuts cuts, ← written_of_cuts cuts]
  exact List.flatMap_congr fun p member => replaced_of_unresolved (unresolved p member)

end Piece

/-! ### Expansion in a run -/

variable {σ : Type} {wake : Wake} [Client σ]

/-- A script that executes a line has expanded the text of its command just before. -/
theorem Run.line_of_turn {r q : Run σ} {line : String}
    (turn : r.turn? wake = some (.execute q line)) :
    ∃ command, q.script.command? = some command ∧
      line = expand q.script.vars q.around command.text := by
  cases turn_takes turn with
  | comeUp _ _ _ _ comes =>
    cases comes with
    | execute _ found => exact ⟨_, found, rfl⟩

/-- Expansion is one pass from left to right. A text has exactly one cut into references and single
characters, and it is expanded to the values of the references that have one and to everything else
as it is written. A script expands the text of its command once; whatever line is executed within
the expanded line, and whatever command is entered there, is given a part of it as it stands. -/
theorem expanded_in_one_pass (vars : Variables) (around : Surroundings) (text : String) :
    (∃ pieces, (∀ other, Piece.Cuts text.toList other ↔ other = pieces) ∧
      pieces.flatMap Piece.written = text.toList ∧
      (expand vars around text).toList = pieces.flatMap (Piece.replaced vars around) ∧
      ((∀ p ∈ pieces, p.value? vars around = none) → expand vars around text = text)) ∧
    ((∀ c ∈ text.toList, c ≠ '%' ∧ c ≠ '$') → expand vars around text = text) ∧
    ∀ (table : CommandTable) (wake : Wake) (r q : Run σ) (line : String),
      r.turn? wake = some (.execute q line) →
      (∃ command, q.script.command? = some command ∧
        line = expand q.script.vars q.around command.text) ∧
      ∀ last inner, Run.ComesTo table q line.toList last inner →
        inner <:+: line.toList ∧ q.execute table line.toList = last.execute table inner ∧
        ∀ keyword arguments action,
          Arguments.splitLine? (trimChars inner) = some (keyword, arguments) →
          table.get? (String.ofList keyword) = some action →
          arguments <:+: line.toList ∧
            last.execute table inner = action.run table (last.shown inner) arguments := by
  refine ⟨?_, fun literal => expand_literal literal vars around, ?_⟩
  · have cuts : Piece.Cuts text.toList (Piece.all text.toList) := Piece.cuts_iff.mpr rfl
    refine ⟨Piece.all text.toList, fun other => Piece.cuts_iff, Piece.written_of_cuts cuts, ?_, ?_⟩
    · exact Piece.expand_of_cuts cuts vars around
    · exact Piece.expand_unresolved cuts
  · intro table wake r q line turn
    refine ⟨Run.line_of_turn turn, fun last inner reached => ?_⟩
    refine ⟨reached.isInfix, reached.execute, fun keyword arguments action split found => ?_⟩
    have inside := (Run.arguments_isInfix split).trans reached.isInfix
    exact ⟨inside, Run.execute_of_split_some split found⟩

/-- A script with a value that looks like a reference, behind two conditionals. -/
def twisted : Run MemoryClient :=
  Run.launch ⟨Script.create {} "twisted" (Program.parse "if_1 if_2 echo %1 $2") ["%2", "x"],
    { client := {} }⟩

/-- The line that a script is about to execute, and the one behind two conditionals of it. -/
def Run.nestedLine? (r : Run MemoryClient) : Option (String × List Char) :=
  match r.turn? .message with
  | some (.execute q line) =>
    match q.way .standard line.toList with
    | (q', .onward rest) =>
      match q'.way .standard rest with
      | (_, .onward inner) => some (line, inner)
      | _ => none
    | _ => none
  | _ => none

theorem Run.comesTo_of_nestedLine {r : Run MemoryClient} {line : String} {inner : List Char}
    (nested : r.nestedLine? = some (line, inner)) :
    ∃ q last, r.turn? .message = some (.execute q line) ∧
      ComesTo .standard q line.toList last inner := by
  unfold nestedLine? at nested
  split at nested
  · next q _ turn =>
    split at nested
    · next led =>
      split at nested
      · next last _ further =>
        cases nested
        exact ⟨q, last, turn, .onward led (.onward further .here)⟩
      · cases nested
    · cases nested
  · cases nested

theorem expanded_in_one_pass_twisted :
    (∃ q last : Run MemoryClient,
      twisted.turn? .message = some (.execute q "if_1 if_2 echo %2 x") ∧
      q.execute .standard "if_1 if_2 echo %2 x".toList =
        Action.run .standard (last.shown "echo %2 x".toList) "%2 x".toList (.builtin .echo)) ∧
    expand twisted.script.vars twisted.around "100% %nobody% $nobody" = "100% %nobody% $nobody" ∧
    expand twisted.script.vars twisted.around "look" = "look" := by
  refine ⟨?_, ?_, ?_⟩
  · have nested : twisted.nestedLine? = some ("if_1 if_2 echo %2 x", "echo %2 x".toList) := by
      decide +kernel
    obtain ⟨q, last, turn, reached⟩ := Run.comesTo_of_nestedLine nested
    have run := (expanded_in_one_pass (σ := MemoryClient) twisted.script.vars twisted.around "").2.2
    obtain ⟨_, execute, enters⟩ := (run .standard .message twisted q _ turn).2 last _ reached
    have entered := enters "echo".toList "%2 x".toList (.builtin .echo) (by decide +kernel) rfl
    exact ⟨q, last, turn, execute.trans entered.2⟩
  · have cut := (expanded_in_one_pass (σ := MemoryClient) twisted.script.vars twisted.around
      "100% %nobody% $nobody").1
    obtain ⟨pieces, only, _, _, unchanged⟩ := cut
    cases (only (Piece.all "100% %nobody% $nobody".toList)).mp (Piece.cuts_iff.mpr rfl)
    have unresolved : (Piece.all "100% %nobody% $nobody".toList).all
        (fun p => (p.value? twisted.script.vars twisted.around).isNone) = true := by
      decide +kernel
    refine unchanged fun p member => ?_
    exact Option.isNone_iff_eq_none.mp (List.all_eq_true.mp unresolved p member)
  · have literal := (expanded_in_one_pass (σ := MemoryClient) twisted.script.vars twisted.around
      "look").2.1
    exact literal (by simp)

end Questline
