import Questline.Engine
import Questline.Proofs.LineBreaks

/-! Custom commands. An engine that takes a list of them keeps its builtin commands and finds each
of the others under its name. The names it takes may hold numbers that are not word characters, and
a line with such a keyword is passed over. -/
namespace Questline

open Text

/-! ### Extending the table -/

namespace CommandTable

@[simp] theorem get?_register (t : CommandTable) (name other : String) (handler : Handler) :
    (t.register name handler).get? other =
      if lower other = lower name then some (.custom handler) else t.get? other :=
  Dict.get?_insert t.actions (lower name) (lower other) (.custom handler)

theorem extend_ok {t t' : CommandTable} {name : String} {handler : Handler}
    (accepted : t.extend name handler = .ok t') :
    name.toList ≠ [] ∧ (∀ c ∈ name.toList, isNameChar c = true) ∧ t.get? name = none ∧
      t' = t.register name handler := by
  unfold extend at accepted
  split at accepted
  · cases accepted
  · next fit =>
    split at accepted
    · cases accepted
    · next fresh =>
      cases accepted
      simp only [Bool.or_eq_true, not_or, Bool.not_eq_true, Bool.not_eq_false'] at fit
      refine ⟨fun nothing => ?_, List.all_eq_true.mp fit.2, ?_, rfl⟩
      · have blank : (trim name).isEmpty = true := by rw [trim, nothing]; rfl
        exact absurd blank (by simp [fit.1])
      · simpa [contains] using fresh

/-- What an accepted list of custom commands makes of a table. -/
structure Extends (t t' : CommandTable) (commands : List (String × Handler)) : Prop where
  keeps : ∀ keyword action, t.get? keyword = some action → t'.get? keyword = some action
  adds : ∀ name handler, (name, handler) ∈ commands → t'.get? name = some (.custom handler)
  names : ∀ name handler, (name, handler) ∈ commands →
    name.toList ≠ [] ∧ ∀ c ∈ name.toList, isNameChar c = true

theorem extend_extends {t t' : CommandTable} {name : String} {handler : Handler}
    (accepted : t.extend name handler = .ok t') : t.Extends t' [(name, handler)] := by
  obtain ⟨nonempty, chars, fresh, rfl⟩ := extend_ok accepted
  constructor
  · intro keyword action known
    -- a keyword that is taken is not the new one
    have other : lower keyword ≠ lower name := by
      intro same
      rw [get?, same] at known
      exact absurd (known.symm.trans fresh) (by simp)
    rw [get?_register, if_neg other, known]
  · intro _ _ among
    cases List.mem_singleton.mp among
    rw [get?_register, if_pos rfl]
  · intro _ _ among
    cases List.mem_singleton.mp among
    exact ⟨nonempty, chars⟩

theorem Extends.trans {t t' t'' : CommandTable} {first second : List (String × Handler)}
    (before : t.Extends t' first) (after : t'.Extends t'' second) :
    t.Extends t'' (first ++ second) := by
  constructor
  · exact fun keyword action known => after.keeps _ _ (before.keeps _ _ known)
  · intro name handler among
    rcases List.mem_append.mp among with early | late
    · exact after.keeps _ _ (before.adds name handler early)
    · exact after.adds name handler late
  · intro name handler among
    rcases List.mem_append.mp among with early | late
    · exact before.names name handler early
    · exact after.names name handler late

theorem extendAll_extends {commands : List (String × Handler)} {t t' : CommandTable}
    (accepted : t.extendAll commands = .ok t') : t.Extends t' commands := by
  unfold extendAll at accepted
  induction commands generalizing t with
  | nil =>
    cases accepted
    exact ⟨fun _ _ known => known, by simp, by simp⟩
  | cons command rest ih =>
    obtain ⟨name, handler⟩ := command
    rw [List.foldlM_cons] at accepted
    cases first : t.extend name handler with
    | error fault => simp [first, bind, Except.bind] at accepted
    | ok extended =>
      simp only [first, bind, Except.bind] at accepted
      exact (extend_extends first).trans (ih accepted)

theorem isBlank_of_isNameChar {c : Char} (named : isNameChar c = true) : isBlank c = false := by
  cases blank : isBlank c with
  | false => rfl
  | true =>
    have apart : isNameChar c = false := apart_of_isBlank (by decide +kernel) blank
    exact absurd named (by simp [apart])

end CommandTable

/-! ### Calling a custom command -/

variable {σ : Type}

theorem Engine.table_of_create {config : Config} {commands : List (String × Handler)}
    {world : World σ} {e : Engine σ} (created : Engine.create config commands world = .ok e) :
    CommandTable.standard.extendAll commands = .ok e.table := by
  simp only [create, bind, Except.bind, pure, Except.pure] at created
  split at created
  · cases created
  · next extended =>
    cases created
    exact extended

theorem Arguments.splitLine_call {name : String} (nonempty : name.toList ≠ [])
    (chars : ∀ c ∈ name.toList, CommandTable.isNameChar c = true) {arguments : String}
    (oneLine : '\n' ∉ arguments.toList) :
    splitLine? (trimChars (name ++ " " ++ arguments).toList) =
      if name.toList.all isWord then some (name.toList, trimChars arguments.toList) else none := by
  have solid : ∀ c ∈ name.toList, isBlank c = false :=
    fun c among => CommandTable.isBlank_of_isNameChar (chars c among)
  have separated : ∀ c ∈ (' ' :: arguments.toList).head?, isBlank c = true := by simp; decide
  have trimmed : trimChars (' ' :: arguments.toList) = trimChars arguments.toList := by
    rw [trimChars, List.dropWhile_cons_of_pos (by decide), trimChars]
  have unbroken : '\n' ∉ trimChars arguments.toList :=
    fun among => oneLine ((trimChars_isInfix arguments.toList).subset among)
  have split := splitLine_keyword nonempty solid separated
  rw [trimmed] at split
  simpa [unbroken] using split

variable [Client σ]

/-- Custom commands leave the builtin ones as they are, and each is in the table under its name. It
is entered by a line that begins with its name if the name consists of word characters; otherwise
such a line does nothing. -/
theorem Engine.custom_command_entered_if_word {config : Config}
    {commands : List (String × Handler)} {world : World σ} {e : Engine σ}
    (created : Engine.create config commands world = .ok e) :
    (∀ keyword action, CommandTable.standard.get? keyword = some action →
      e.table.get? keyword = some action) ∧
    ∀ name handler, (name, handler) ∈ commands →
      e.table.get? name = some (.custom handler) ∧
      ∀ (r : Run σ) (arguments : String), '\n' ∉ arguments.toList →
        let line := (name ++ " " ++ arguments).toList
        (name.toList.all isWord = true → r.execute e.table line =
          Action.run e.table (r.shown line) (trimChars arguments.toList) (.custom handler)) ∧
        (name.toList.all isWord = false → r.execute e.table line = (r, .done)) := by
  have extended := CommandTable.extendAll_extends (table_of_create created)
  refine ⟨extended.keeps, fun name handler among => ?_⟩
  have found := extended.adds name handler among
  obtain ⟨nonempty, chars⟩ := extended.names name handler among
  refine ⟨found, fun r arguments oneLine => ?_⟩
  have split := Arguments.splitLine_call nonempty chars oneLine
  constructor
  · intro words
    rw [if_pos words] at split
    exact Run.execute_of_split_some split (by rw [String.ofList_toList, found])
  · intro strange
    rw [if_neg (by simp [strange])] at split
    exact Run.execute_of_split_none split

def sayIt : Handler := fun arguments => ([.echo ("say <" ++ arguments ++ ">")], .done)

/-- The same command under two names, of which one ends in a number that is no digit. -/
def survey : List (String × Handler) := [("Größe", sayIt), ("m²", sayIt)]

theorem survey_created :
    ∃ e : Engine MemoryClient, Engine.create {} survey { client := {} } = .ok e := by
  have accepted : (CommandTable.standard.extendAll survey).toBool = true := by decide +kernel
  unfold Engine.create
  cases extended : CommandTable.standard.extendAll survey with
  | error fault => simp [extended, Except.toBool] at accepted
  | ok table => exact ⟨_, rfl⟩

theorem custom_command_entered_if_word_survey :
    ∃ e : Engine MemoryClient, Engine.create {} survey { client := {} } = .ok e ∧
      e.table.get? "EcHo" = some (.builtin .echo) ∧ ∀ r : Run MemoryClient,
        r.execute e.table "Größe now ".toList =
          Action.run e.table (r.shown "Größe now ".toList) "now".toList (.custom sayIt) ∧
        r.execute e.table "m² now ".toList = (r, .done) := by
  obtain ⟨e, created⟩ := survey_created
  obtain ⟨kept, added⟩ := Engine.custom_command_entered_if_word created
  have oneLine : '\n' ∉ "now ".toList := by decide
  refine ⟨e, created, kept "EcHo" _ spoken_known, fun r => ⟨?_, ?_⟩⟩
  · exact ((added "Größe" sayIt (by simp [survey])).2 r "now " oneLine).1 (by decide +kernel)
  · exact ((added "m²" sayIt (by simp [survey])).2 r "now " oneLine).2 (by decide +kernel)

/-- A name with a square in it is accepted, but a line that begins with it enters nothing, with
whatever arguments, and there is no warning. -/
theorem square_metres_unheard :
    ∃ e : Engine MemoryClient, Engine.create {} survey { client := {} } = .ok e ∧
      ("m²", sayIt) ∈ survey ∧ ∀ (r : Run MemoryClient) (arguments : List Char),
        r.execute e.table "m² now".toList = (r, .done) ∧
        r.execute e.table "m² now".toList ≠
          Action.run e.table (r.shown "m² now".toList) arguments (.custom sayIt) := by
  obtain ⟨e, created⟩ := survey_created
  refine ⟨e, created, by simp [survey], fun r arguments => ?_⟩
  have passed : r.execute e.table "m² now".toList = (r, .done) :=
    Run.execute_of_split_none (by decide +kernel)
  refine ⟨passed, fun same => ?_⟩
  have shown : r.script.log.length ≤ (r.shown "m² now".toList).script.log.length := by
    unfold Run.shown Run.trace
    split <;> simp [Run.note]
  -- the command would have made the log longer
  generalize r.shown "m² now".toList = entered at shown same
  have logs := congrArg (fun result => result.1.script.log.length) (passed.symm.trans same)
  simp only [Action.run, sayIt, Run.grantAll, Run.grant, Reaction.outcome?, Option.elim_some,
    Run.note, List.length_append, List.length_singleton] at logs
  omega

end Questline
