import Mathlib.Data.List.DropRight
import Questline.MemoryClient
import Questline.Proofs.Spelling
import Questline.Script.Step

/-! What a line says and what it does. A program is read once, and then it is known which lines talk
to the game; a line is taken apart anew each time it is executed. Both come to the same keyword
behind all conditionals. -/
namespace Questline

namespace Text

theorem trimChars_dropWhile (cs : List Char) : trimChars (cs.dropWhile isBlank) = trimChars cs := by
  rw [trimChars, List.dropWhile_idempotent, trimChars]

theorem dropWhile_trimChars (cs : List Char) : (trimChars cs).dropWhile isBlank = trimChars cs := by
  obtain ⟨tail, whole⟩ := List.rdropWhile_prefix isBlank (cs.dropWhile isBlank)
  change trimChars cs ++ tail = cs.dropWhile isBlank at whole
  rw [List.dropWhile_eq_self_iff]
  intro positive blank
  have dropped := List.dropWhile_eq_self_iff.mp (List.dropWhile_idempotent isBlank cs)
  rw [← whole] at dropped
  have first := dropped (by rw [List.length_append]; omega)
  rw [List.getElem_append_left positive] at first
  exact first blank

theorem trimChars_trimChars (cs : List Char) : trimChars (trimChars cs) = trimChars cs := by
  have ends : trimEndChars (trimChars cs) = trimChars cs :=
    List.rdropWhile_idempotent isBlank (cs.dropWhile isBlank)
  rw [trimChars, dropWhile_trimChars, ends]

end Text

open Text

/-! ### The table of builtin commands -/

theorem Dict.mem_of_get_ofList {α : Type} {entries : List (String × α)} {name : String} {value : α}
    (found : (Dict.ofList entries).get? name = some value) : (name, value) ∈ entries := by
  have placed : ∀ (es : List (String × α)) (d : Dict α),
      (es.foldl (fun d e => d.insert e.1 e.2) d).get? name = some value →
        (name, value) ∈ es ∨ d.get? name = some value := by
    intro es
    induction es with
    | nil => exact fun d here => .inr here
    | cons e rest ih =>
      intro d here
      rcases ih _ here with later | here
      · exact .inl (List.mem_cons_of_mem _ later)
      · rw [Dict.get?_insert] at here
        split at here
        · next same =>
          cases here
          exact .inl (by rw [same]; exact List.mem_cons_self)
        · exact .inr here
  exact (placed entries .empty found).resolve_right (by simp)

theorem CommandTable.standard_get {name : String} {action : Action}
    (found : CommandTable.standard.get? name = some action) :
    ∃ command, action = .builtin command ∧ lower name = command.keyword := by
  obtain ⟨command, _, same⟩ := List.mem_map.mp (Dict.mem_of_get_ofList found)
  obtain ⟨key, here⟩ := Prod.mk.inj same
  exact ⟨command, here.symm, key.symm⟩

/-! ### The keyword of a line -/

theorem Arguments.splitLine_some {cs keyword arguments : List Char}
    (split : splitLine? cs = some (keyword, arguments)) :
    keyword = cs.takeWhile isWord ∧
      (arguments = [] ∨ ∃ blank rest, isBlank blank = true ∧ cs = keyword ++ blank :: rest ∧
        arguments = rest.dropWhile isBlank) := by
  have whole : cs.takeWhile isWord ++ cs.dropWhile isWord = cs := List.takeWhile_append_dropWhile
  unfold splitLine? at split
  simp only at split
  split at split
  · cases split
  · split at split
    · cases split
      exact ⟨rfl, .inl rfl⟩
    · next blank rest after =>
      split at split
      · next separated =>
        cases split
        simp only [Bool.and_eq_true] at separated
        rw [after] at whole
        exact ⟨rfl, .inr ⟨blank, rest, separated.1, whole.symm, rfl⟩⟩
      · cases split

namespace Builtin

def isConditional : Builtin → Bool
  | ifSet _ | otherwise => true
  | _ => false

theorem keyword_isPlain (command : Builtin) :
    ∀ b ∈ command.keyword.toList, isPlain b = true := by
  have conditionals : ∀ digit : Fin 10, (ifSet digit).keyword.toList.all isPlain = true := by
    decide +kernel
  cases command with
  | ifSet digit => exact List.all_eq_true.mp (conditionals digit)
  | _ => exact List.all_eq_true.mp (by decide)

theorem keyword_ifSet (digit : Fin 10) :
    (ifSet digit).keyword.toList = ['i', 'f', '_', Char.ofNat (48 + digit.val)] := by
  revert digit
  decide +kernel

theorem spellings_of_conditional :
    (spellings 'i').all (foldChar · = 'i') ∧ (spellings 'f').all (foldChar · = 'f') ∧
      (spellings '_').all (· = '_') ∧
      (∀ digit : Fin 10, (spellings (Char.ofNat (48 + digit.val))).all isDecimal) ∧
      (spellings 'e').all (foldChar · = 'e') ∧ (spellings 'l').all (foldChar · = 'l') ∧
      (spellings 's').all (foldChar · = 's') := by
  decide +kernel

/-- A conditional is recognised however it is spelled. -/
theorem afterConditional_of_keyword {command : Builtin} {keyword rest : List Char} {blank : Char}
    (conditional : command.isConditional = true)
    (lowered : lower (String.ofList keyword) = command.keyword) (blanks : isBlank blank = true) :
    Command.afterConditional? (keyword ++ blank :: rest) = some (trimChars rest) := by
  obtain ⟨i, f, underscore, digits, e, l, s⟩ := spellings_of_conditional
  simp only [List.all_eq_true, decide_eq_true_eq] at i f underscore digits e l s
  cases command with
  | ifSet digit =>
    have spelled := spelled_of_lower (keyword_isPlain _) lowered
    rw [keyword_ifSet] at spelled
    obtain _ | ⟨h₀, _ | ⟨h₁, _ | ⟨h₂, _ | ⟨h₃, _ | _⟩⟩⟩⟩ := spelled
    simp [Command.afterConditional?, blanks, i _ h₀, f _ h₁, underscore _ h₂, digits digit _ h₃]
  | otherwise =>
    have spelled := spelled_of_lower (keyword_isPlain _) lowered
    obtain _ | ⟨h₀, _ | ⟨h₁, _ | ⟨h₂, _ | ⟨h₃, _ | _⟩⟩⟩⟩ := spelled
    simp [Command.afterConditional?, blanks, e _ h₀, l _ h₁, s _ h₂, e _ h₃]
  | _ => cases conditional

theorem spellings_of_throttled :
    (spellings 'p').all (foldChar · = 'p') ∧ (spellings 'm').all (foldChar · = 'm') := by
  decide +kernel

theorem afterConditional_none {first : Char} {cs : List Char} (noIf : foldChar first ≠ 'i')
    (noElse : foldChar first ≠ 'e') : Command.afterConditional? (first :: cs) = none := by
  unfold Command.afterConditional?
  split
  · next same =>
    cases same
    simp [noIf, noElse]
  · rfl

/-- A command that talks to the game is not taken for a conditional. -/
theorem afterConditional_of_throttled {command : Builtin} {keyword rest : List Char}
    (talks : command ∈ throttled) (lowered : lower (String.ofList keyword) = command.keyword) :
    Command.afterConditional? (keyword ++ rest) = none := by
  obtain ⟨p, m⟩ := spellings_of_throttled
  simp only [List.all_eq_true, decide_eq_true_eq] at p m
  simp only [throttled, List.mem_cons, List.not_mem_nil, or_false] at talks
  rcases talks with rfl | rfl
  · have spelled := spelled_of_lower (keyword_isPlain _) lowered
    obtain _ | ⟨h₀, _⟩ := spelled
    exact afterConditional_none (by rw [p _ h₀]; decide) (by rw [p _ h₀]; decide)
  · have spelled := spelled_of_lower (keyword_isPlain _) lowered
    obtain _ | ⟨h₀, _⟩ := spelled
    exact afterConditional_none (by rw [m _ h₀]; decide) (by rw [m _ h₀]; decide)

end Builtin

/-! ### Where a line leads -/

variable {σ : Type} [Client σ]

namespace Run

/-- A keyword leads to the builtin command of its name, or further on behind a conditional or a
custom command. -/
inductive Follows (table : CommandTable) (line : List Char) : Way → Prop
  | command {keyword arguments : List Char} {command : Builtin}
      (split : Arguments.splitLine? (trimChars line) = some (keyword, arguments))
      (found : table.get? (String.ofList keyword) = some (.builtin command)) :
      Follows table line (.there (.command command (String.ofList arguments)))
  | ended {outcome : Outcome} : Follows table line (.there (.ended outcome))
  | conditional {keyword arguments : List Char} {command : Builtin}
      (split : Arguments.splitLine? (trimChars line) = some (keyword, arguments))
      (found : table.get? (String.ofList keyword) = some (.builtin command))
      (conditional : command.isConditional = true) : Follows table line (.onward arguments)
  | custom {keyword arguments : List Char} {handler : Handler}
      (split : Arguments.splitLine? (trimChars line) = some (keyword, arguments))
      (found : table.get? (String.ofList keyword) = some (.custom handler)) :
      Follows table line (.onward arguments)

theorem way_follows (table : CommandTable) (r : Run σ) (line : List Char) :
    Follows table line (r.way table line).2 := by
  unfold way
  split
  · exact .ended
  · next keyword arguments split =>
    unfold follow
    split
    · exact .ended
    · next found =>
      simp only
      split
      · exact .conditional split found rfl
      · exact .ended
    · next found =>
      simp only
      split
      · exact .ended
      · exact .conditional split found rfl
    · next found => exact .command split found
    · next handler found =>
      simp only
      split
      · exact .ended
      · cases (handler (String.ofList arguments)).2.outcome? with
        | none => exact .custom split found
        | some outcome => exact .ended

theorem dispatch_nil (table : CommandTable) (r : Run σ) :
    r.dispatch table [] = (r, .ended .done) := by
  rw [dispatch]
  rfl

/-- A line that leads to a command that talks to the game has the keyword of that command behind its
conditionals. -/
theorem innerKeyword_of_dispatch {r q : Run σ} {line : List Char} {command : Builtin}
    {arguments : String} (led : r.dispatch .standard line = (q, .command command arguments))
    (talks : command ∈ Builtin.throttled) :
    Command.innerKeyword (trimChars line) = command.keyword := by
  fun_induction dispatch .standard r line with
  | case1 r line q' destination way =>
    cases led
    have follows := way_follows .standard r line
    rw [way] at follows
    cases follows with
    | @command keyword _ _ split found =>
      obtain ⟨_, same, lowered⟩ := CommandTable.standard_get found
      cases same
      obtain ⟨front, _⟩ := Arguments.splitLine_some split
      have none : Command.afterConditional? (trimChars line) = none := by
        have apart := @Builtin.afterConditional_of_throttled command keyword
          ((trimChars line).dropWhile isWord) talks lowered
        rwa [front, List.takeWhile_append_dropWhile] at apart
      rw [Command.innerKeyword]
      split
      · next found => cases none.symm.trans found
      · rw [Command.keywordOf, String.toList_ofList, trimChars_trimChars, ← front, lowered]
  | case2 r line q' rest way ih =>
    have behind := ih led
    have follows := way_follows .standard r line
    rw [way] at follows
    cases follows with
    | custom _ found =>
      obtain ⟨_, custom, _⟩ := CommandTable.standard_get found
      cases custom
    | conditional split found conditional =>
      obtain ⟨_, same, lowered⟩ := CommandTable.standard_get found
      cases same
      rcases (Arguments.splitLine_some split).2 with rfl | ⟨blank, more, blanks, whole, rfl⟩
      · rw [dispatch_nil] at led
        cases led
      · have after := @Builtin.afterConditional_of_keyword _ _ more _ conditional lowered blanks
        rw [← whole] at after
        rw [trimChars_dropWhile] at behind
        rw [Command.innerKeyword]
        split
        · next found =>
          cases after.symm.trans found
          exact behind
        · next found => cases after.symm.trans found

end Run

/-! ### Lines of a program -/

theorem Program.command_of_parse {source : String} {index : Nat} {command : Command}
    (present : (parse source).command? index = some command) :
    ∃ raw, command = Command.ofLine index (String.ofList (trimChars raw)) := by
  simp only [parse, ofLines, Program.command?, List.getElem?_map, List.getElem?_mapIdx,
    Option.join_eq_some_iff, Option.map_eq_some_iff] at present
  obtain ⟨_, ⟨line, _, rfl⟩, here⟩ := present
  refine ⟨line.toList, ?_⟩
  simp only [Line.read] at here
  split at here
  · cases here
  · split at here
    · cases here
    · cases here
      rfl

theorem Program.instant_of_dispatch {source : String} {index : Nat} {command : Command}
    (present : (parse source).command? index = some command) {r q : Run σ} {builtin : Builtin}
    {arguments : String}
    (led : r.dispatch .standard command.text.toList = (q, .command builtin arguments))
    (talks : builtin ∈ Builtin.throttled) : command.instant = false := by
  obtain ⟨raw, rfl⟩ := command_of_parse present
  have inner := Run.innerKeyword_of_dispatch led talks
  simp only [Command.ofLine, String.toList_ofList, trimChars_trimChars] at inner ⊢
  rw [inner, Bool.not_eq_false', List.contains_iff_mem]
  exact List.mem_map_of_mem talks

/-- What is known about a line when a program is read agrees with what happens when the line is
executed: if it leads to a command that talks to the game, then it is not instant. -/
theorem throttled_line_not_instant (source : String) (index : Nat) {command : Command}
    (present : (Program.parse source).command? index = some command) (r : Run σ)
    (unchanged : expand r.script.vars r.around command.text = command.text) {q : Run σ}
    {builtin : Builtin} {arguments : String}
    (entered : r.dispatch .standard (expand r.script.vars r.around command.text).toList =
      (q, .command builtin arguments))
    (talks : builtin = .put ∨ builtin = .move) : command.instant = false := by
  rw [unchanged] at entered
  refine Program.instant_of_dispatch present entered ?_
  rcases talks with rfl | rfl <;> decide

/-- A script whose only line talks to the game behind two conditionals. -/
def nested : Run MemoryClient :=
  ⟨Script.create {} "nested" (Program.parse "IF_1\tif_2  PuT look") ["x", "y"], { client := {} }⟩

def Run.Destination.command? : Run.Destination → Option (Builtin × String)
  | .command builtin arguments => some (builtin, arguments)
  | .ended _ => none

theorem throttled_line_not_instant_nested : ∃ command q,
    (Program.parse "IF_1\tif_2  PuT look").command? 0 = some command ∧
      nested.dispatch .standard command.text.toList = (q, .command .put "look") ∧
      command.instant = false := by
  have facts : ((Program.parse "IF_1\tif_2  PuT look").command? 0).map (fun c => (c.text,
      expand nested.script.vars nested.around c.text)) =
        some ("IF_1\tif_2  PuT look", "IF_1\tif_2  PuT look") ∧
      (nested.dispatch .standard "IF_1\tif_2  PuT look".toList).2.command? =
        some (.put, "look") := by
    decide +kernel
  obtain ⟨command, present, texts⟩ := Option.map_eq_some_iff.mp facts.1
  obtain ⟨text, expanded⟩ := Prod.mk.inj texts
  have unchanged : expand nested.script.vars nested.around command.text = command.text :=
    expanded.trans text.symm
  cases led : nested.dispatch .standard command.text.toList with
  | mk q destination =>
    have there := facts.2
    rw [← text, led] at there
    cases destination with
    | ended outcome => cases there
    | command builtin arguments =>
      cases there
      refine ⟨command, q, present, led, ?_⟩
      exact throttled_line_not_instant _ 0 present nested unchanged (by rw [unchanged]; exact led)
        (.inl rfl)

end Questline
