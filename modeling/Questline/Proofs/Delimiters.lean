import Questline.Proofs.LineBreaks

/-! Patterns between slashes. The flags behind a pattern hold no slash and a label holds no blank,
so however many slashes and blanks a pattern has itself, a text is a label, a pattern and its flags
in one way only, and that is how it is read. -/
namespace Questline

namespace Text

theorem trimEndChars_of_ink {cs : List Char} (ink : ∀ c ∈ cs.getLast?, isBlank c = false) :
    trimEndChars cs = cs := by
  have last : cs.reverse.dropWhile isBlank = cs.reverse := by
    cases reversed : cs.reverse with
    | nil => rfl
    | cons c before =>
      have solid := ink c (by rw [← List.head?_reverse, reversed]; rfl)
      simp [solid]
  rw [trimEndChars, last, List.reverse_reverse]

theorem trimChars_surrounded {before core after : List Char}
    (blanks : ∀ c ∈ before ++ after, isBlank c = true)
    (first : ∀ c ∈ core.head?, isBlank c = false) (last : ∀ c ∈ core.getLast?, isBlank c = false) :
    trimChars (before ++ (core ++ after)) = core := by
  obtain ⟨ahead, behind⟩ := List.forall_mem_append.mp blanks
  have nothing : trimEndChars after = [] := trimEndChars_blanks behind
  rw [trimChars, List.dropWhile_append_of_pos ahead]
  cases core with
  | nil =>
    have dropped : after.dropWhile isBlank = [] := List.dropWhile_eq_nil_iff.mpr behind
    rw [List.nil_append, dropped]
    rfl
  | cons c core =>
    rw [List.cons_append, List.dropWhile_cons_of_neg (by simp [first c rfl]), ← List.cons_append,
      trimEndChars_append, if_pos nothing]
    exact trimEndChars_of_ink last

end Text

open Text

namespace Arguments

/-! ### What is between the slashes -/

/-- A text is a pattern between slashes with flags behind it. -/
structure Delimits (cs pattern flags : List Char) : Prop where
  text : cs = '/' :: (pattern ++ '/' :: flags)
  oneLine : '\n' ∉ pattern
  words : ∀ c ∈ flags, isWord c = true

theorem slash_isWord : isWord '/' = false := by decide +kernel

theorem slash_isBlank : isBlank '/' = false := by decide

/-- The last slash ends the pattern: no slash is among the flags. -/
theorem Delimits.read {cs pattern flags : List Char} (delimits : Delimits cs pattern flags) :
    delimited? cs = some (String.ofList pattern, String.ofList flags) := by
  obtain ⟨rfl, oneLine, words⟩ := delimits
  have reversed : (pattern ++ '/' :: flags).reverse = flags.reverse ++ '/' :: pattern.reverse := by
    simp
  have words' : ∀ c ∈ flags.reverse, isWord c = true := by simpa using words
  have stops : ∀ c ∈ ('/' :: pattern.reverse).head?, isWord c = false := by
    rintro c ⟨⟩
    exact slash_isWord
  simp only [delimited?, reversed, takeWhile_words words' stops, dropWhile_words words' stops]
  simp [oneLine]

theorem delimits_of_read {cs : List Char} {pattern flags : String}
    (read : delimited? cs = some (pattern, flags)) : Delimits cs pattern.toList flags.toList := by
  unfold delimited? at read
  split at read
  · next body =>
    have whole : body.reverse.takeWhile isWord ++ body.reverse.dropWhile isWord = body.reverse :=
      List.takeWhile_append_dropWhile
    dsimp only at read
    split at read
    · next reversed after =>
      split at read
      · cases read
      · next oneLine =>
        cases read
        rw [after] at whole
        have turned := (congrArg List.reverse whole).symm
        simp only [List.reverse_append, List.reverse_cons, List.reverse_reverse, List.append_assoc,
          List.singleton_append] at turned
        constructor
        · rw [String.toList_ofList, String.toList_ofList]
          exact congrArg (List.cons '/') turned
        · simpa using oneLine
        · intro c member
          simp only [String.toList_ofList, List.mem_reverse] at member
          exact List.mem_takeWhile_imp member
    · cases read
  · cases read

theorem Delimits.ink {cs pattern flags : List Char} (delimits : Delimits cs pattern flags) :
    (∀ c ∈ cs.head?, isBlank c = false) ∧ ∀ c ∈ cs.getLast?, isBlank c = false := by
  obtain ⟨rfl, _, words⟩ := delimits
  constructor
  · rintro c ⟨⟩
    exact slash_isBlank
  · intro c last
    have among : c ∈ '/' :: flags := by
      rw [← List.cons_append, List.getLast?_append_of_ne_nil _ (List.cons_ne_nil _ _)] at last
      exact List.mem_of_getLast? last
    rcases List.mem_cons.mp among with rfl | flag
    · exact slash_isBlank
    · have word := words c flag
      cases blank : isBlank c with
      | false => rfl
      | true => rw [isWord_of_isBlank blank] at word; cases word

/-! ### What is in front of them -/

/-- A text is a label and, behind blanks, a pattern with its flags. -/
structure Labels (cs label pattern flags : List Char) : Prop where
  named : label ≠ []
  solid : ∀ c ∈ label, isBlank c = false
  text : ∃ between rest, cs = label ++ (between ++ rest) ∧ between ≠ [] ∧
    (∀ c ∈ between, isBlank c = true) ∧ Delimits rest pattern flags

/-- A label ends at the first blank and what is delimited begins behind all of them. -/
theorem headAndRest_append {label between rest : List Char}
    (solid : ∀ c ∈ label, isBlank c = false) (apart : between ≠ [])
    (blanks : ∀ c ∈ between, isBlank c = true) (first : ∀ c ∈ rest.head?, isBlank c = false) :
    headAndRest (label ++ (between ++ rest)) = (label, rest) := by
  have ink : ∀ c ∈ label, isInk c = true := fun c member => by simp [isInk, solid c member]
  have start : rest.dropWhile isBlank = rest := by
    cases rest with
    | nil => rfl
    | cons c rest => simp [first c rfl]
  obtain ⟨blank, more, rfl⟩ := List.exists_cons_of_ne_nil apart
  have stops : isInk blank = false := by simp [isInk, blanks blank List.mem_cons_self]
  rw [headAndRest, List.takeWhile_append_of_pos ink, List.dropWhile_append_of_pos ink,
    List.cons_append, List.takeWhile_cons_of_neg (by simp [stops]), List.append_nil,
    List.dropWhile_cons_of_neg (by simp [stops]), ← List.cons_append,
    List.dropWhile_append_of_pos blanks, start]

theorem labelAndPattern_iff {arguments label pattern flags : String} :
    labelAndPattern? arguments = some (label, pattern, flags) ↔
      Labels (trimChars arguments.toList) label.toList pattern.toList flags.toList := by
  generalize cut : trimChars arguments.toList = cs
  constructor
  · intro read
    simp only [labelAndPattern?, headAndRest, cut, List.isEmpty_iff] at read
    split at read
    · cases read
    · next named =>
      obtain ⟨⟨_, _⟩, delimited, same⟩ := Option.map_eq_some_iff.mp read
      cases same
      have delimits := delimits_of_read delimited
      have after : cs.dropWhile isInk ≠ [] := by
        intro nothing
        rw [nothing] at delimits
        cases delimits.text
      rw [String.toList_ofList]
      refine ⟨named, fun c member => ?_, ?_⟩
      · simpa [isInk] using List.mem_takeWhile_imp member
      · refine ⟨(cs.dropWhile isInk).takeWhile isBlank, _, ?_, ?_, ?_, delimits⟩
        · rw [List.takeWhile_append_dropWhile, List.takeWhile_append_dropWhile]
        · obtain ⟨c, rest, behind⟩ := List.exists_cons_of_ne_nil after
          have blank : isInk c = false := by
            simpa [behind] using List.head?_dropWhile_not isInk cs
          simp only [isInk, Bool.not_eq_eq_eq_not, Bool.not_false] at blank
          simp [behind, blank]
        · exact fun c member => List.mem_takeWhile_imp member
  · rintro ⟨named, solid, between, rest, rfl, apart, blanks, delimits⟩
    simp only [labelAndPattern?, cut, headAndRest_append solid apart blanks delimits.ink.1,
      List.isEmpty_iff, named, if_false, delimits.read, Option.map_some, String.ofList_toList]

theorem pattern_iff {arguments pattern flags : String} :
    pattern? arguments = some (pattern, flags) ↔
      Delimits (trimChars arguments.toList) pattern.toList flags.toList := by
  constructor
  · exact delimits_of_read
  · intro delimits
    rw [pattern?, delimits.read, String.ofList_toList, String.ofList_toList]

section

variable {before pattern flags after : String} (oneLine : '\n' ∉ pattern.toList)
  (words : ∀ c ∈ flags.toList, isWord c = true)
  (around : ∀ c ∈ before.toList ++ after.toList, isBlank c = true)
include oneLine words around

theorem pattern_written :
    pattern? (before ++ ("/" ++ pattern ++ "/" ++ flags) ++ after) = some (pattern, flags) := by
  have delimits : Delimits ("/" ++ pattern ++ "/" ++ flags).toList pattern.toList flags.toList :=
    ⟨by simp, oneLine, words⟩
  rw [pattern_iff, String.toList_append, String.toList_append, List.append_assoc,
    trimChars_surrounded around delimits.ink.1 delimits.ink.2]
  exact delimits

theorem labelAndPattern_written {label between : String} (named : label ≠ "")
    (solid : ∀ c ∈ label.toList, isBlank c = false) (apart : between ≠ "")
    (blanks : ∀ c ∈ between.toList, isBlank c = true) :
    labelAndPattern? (before ++ label ++ between ++ ("/" ++ pattern ++ "/" ++ flags) ++ after) =
      some (label, pattern, flags) := by
  have delimits : Delimits ("/" ++ pattern ++ "/" ++ flags).toList pattern.toList flags.toList :=
    ⟨by simp, oneLine, words⟩
  have nonempty : label.toList ≠ [] := by simpa using named
  have separated : between.toList ≠ [] := by simpa using apart
  have whole : (before ++ label ++ between ++ ("/" ++ pattern ++ "/" ++ flags) ++ after).toList =
      before.toList ++ ((label.toList ++ (between.toList ++
        ("/" ++ pattern ++ "/" ++ flags).toList)) ++ after.toList) := by
    simp only [String.toList_append, List.append_assoc]
  rw [labelAndPattern_iff, whole, trimChars_surrounded around]
  · exact ⟨nonempty, solid, between.toList, _, rfl, separated, blanks, delimits⟩
  · rw [List.head?_append_of_ne_nil _ nonempty]
    exact fun c head => solid c (List.mem_of_head? head)
  · rw [← List.append_assoc, List.getLast?_append_of_ne_nil _ (by rw [delimits.text]; simp)]
    exact delimits.ink.2

end

end Arguments

theorem Watch.pending_register (w : Watch) (stream : Stream) (p : PendingMatch) :
    (w.register stream p).1.pending = w.pending ++ [p] := by
  unfold register
  split <;> rfl

namespace Commands

variable {σ : Type}

/-- Whatever the registered pattern holds, it is read back as it was written. A label, blanks, a
pattern of one line between slashes and flags of word characters are read as this label, pattern and
flags, whatever blanks are around them; the command registers the label with the pattern, ignoring
case if there is an `i` among the flags. Without a label the pattern is waited for in the same way.
-/
theorem delimited_pattern_read_back [Client σ] (r : Run σ)
    (before label between pattern flags after : String) (named : label ≠ "")
    (solid : ∀ c ∈ label.toList, isBlank c = false) (apart : between ≠ "")
    (blanks : ∀ c ∈ between.toList, isBlank c = true)
    (around : ∀ c ∈ before.toList ++ after.toList, isBlank c = true)
    (oneLine : '\n' ∉ pattern.toList) (words : ∀ c ∈ flags.toList, isWord c = true)
    {matcher : Matcher}
    (accepted : Matcher.ofPattern pattern (decide ('i' ∈ flags.toList)) = .ok matcher) :
    let delimited := "/" ++ pattern ++ "/" ++ flags
    (Arguments.labelAndPattern? (before ++ label ++ between ++ delimited ++ after) =
        some (label, pattern, flags) ∧
      Arguments.pattern? (before ++ delimited ++ after) = some (pattern, flags)) ∧
    (perform r (before ++ label ++ between ++ delimited ++ after) .matchPattern =
        (r.register ⟨matcher, label⟩, .done) ∧
      (r.register ⟨matcher, label⟩).script.watch.pending =
        r.script.watch.pending ++ [⟨matcher, label⟩]) ∧
    perform r (before ++ delimited ++ after) .waitForPattern =
      (r.subscribe.2, .waiting (.line r.subscribe.1 matcher true)) := by
  intro delimited
  have reads := Arguments.labelAndPattern_written oneLine words around named solid apart blanks
  have readsAlone := Arguments.pattern_written oneLine words around
  have caseless : Arguments.ignoresCase flags = decide ('i' ∈ flags.toList) := by
    simp [Arguments.ignoresCase]
  refine ⟨⟨reads, readsAlone⟩, ⟨?_, Watch.pending_register _ _ _⟩, ?_⟩
  · simp only [delimited, perform, matchPattern, reads, caseless, accepted]
  · simp only [delimited, perform, waitForPattern, readsAlone, caseless, accepted]

/-- A pattern that looks as if it ended earlier, behind a label that looks like a pattern. -/
theorem delimited_pattern_read_back_slashes : ∃ matcher,
    Matcher.ofPattern "lost /i or /found/ " true = .ok matcher ∧
    ∀ r : Run MemoryClient,
      perform r "\t/away/ \n /lost /i or /found/ /mi " .matchPattern =
        (r.register ⟨matcher, "/away/"⟩, .done) ∧
      perform r "\t/lost /i or /found/ /mi " .waitForPattern =
        (r.subscribe.2, .waiting (.line r.subscribe.1 matcher true)) := by
  have isOk : (Matcher.ofPattern "lost /i or /found/ " true).isOk = true := by decide +kernel
  cases accepted : Matcher.ofPattern "lost /i or /found/ " true with
  | error f => rw [accepted] at isOk; cases isOk
  | ok matcher =>
    refine ⟨matcher, rfl, fun r => ?_⟩
    -- each text is checked with `List.all`: left to itself, `decide` tries every character there is
    have solid : "/away/".toList.any isBlank = false := by decide
    have blanks : " \n ".toList.all isBlank = true := by decide
    have around : ("\t".toList ++ " ".toList).all isBlank = true := by decide
    have words : "mi".toList.all isWord = true := by decide +kernel
    obtain ⟨_, ⟨registers, _⟩, waits⟩ := delimited_pattern_read_back r "\t" "/away/" " \n "
      "lost /i or /found/ " "mi" " " (by decide)
      (fun c among => Bool.eq_false_iff.2 (List.any_eq_false.1 solid c among)) (by decide)
      (List.all_eq_true.1 blanks) (List.all_eq_true.1 around) (by decide)
      (List.all_eq_true.1 words) accepted
    exact ⟨registers, waits⟩

end Commands

end Questline
