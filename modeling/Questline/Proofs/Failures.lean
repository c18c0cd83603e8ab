import Questline.MemoryClient
import Questline.Proofs.Keywords
import Questline.Proofs.Queues
import Questline.Proofs.Turns

/-! A command that fails leaves everything as it was. Commands check what they are given before they
change anything, and a line that leads to one behind conditionals changes nothing on its way but the
condition it remembers. A match that is waited for and a shift of the arguments are apart from the
others: they can fail halfway. -/
namespace Questline

def Wait.jumps : Wait → Bool
  | hit .. => true
  | _ => false

/-- A subscription that is closed right after it was opened leaves no trace in the queues. -/
theorem Stream.unsubscribe_subscribe {s : Stream} (past : ∀ id ∈ s.ids, id < s.nextId) :
    (s.subscribe.2.unsubscribe s.nextId).queues = s.queues := by
  have others : s.queues.filter (fun q => q.1 != s.nextId) = s.queues := by
    refine List.filter_eq_self.mpr fun q member => bne_iff_ne.mpr ?_
    exact Nat.ne_of_lt (past q.1 (List.mem_map_of_mem member))
  simp [subscribe, unsubscribe, others]

/-- Whether the keyword of a line is that of a custom command. -/
def CommandTable.customAt (table : CommandTable) (line : List Char) : Bool :=
  match Arguments.splitLine? (Text.trimChars line) with
  | none => false
  | some (keyword, _) =>
    match table.get? (String.ofList keyword) with
    | some (.custom _) => true
    | _ => false

theorem CommandTable.customAt_standard (line : List Char) :
    CommandTable.standard.customAt line = false := by
  unfold customAt
  split
  · rfl
  · split
    · next found =>
      obtain ⟨_, custom, _⟩ := CommandTable.standard_get found
      cases custom
    · rfl

variable {σ : Type}

namespace Run

/-- The log grows by messages for debugging only. -/
def Mutters (r r' : Run σ) : Prop :=
  ∃ texts : List String, r'.script.log = r.script.log ++ texts.map .trace

theorem Mutters.of_eq {r r' : Run σ} (same : r'.script.log = r.script.log) : Mutters r r' :=
  ⟨[], same.trans (List.append_nil _).symm⟩

theorem Mutters.trans {r r' r'' : Run σ} (first : Mutters r r') (second : Mutters r' r'') :
    Mutters r r'' := by
  obtain ⟨texts, logged⟩ := first
  obtain ⟨more, logged'⟩ := second
  exact ⟨texts ++ more, by rw [logged', logged, List.append_assoc, List.map_append]⟩

/-- Nothing changes but that messages for debugging are left and a condition is remembered. -/
structure Quiet (r r' : Run σ) : Prop where
  kept : Keeps [.condition, .log] r r'
  logged : Mutters r r'

namespace Quiet

theorem refl (r : Run σ) : Quiet r r := ⟨.refl _ r, .of_eq rfl⟩

theorem trans {r r' r'' : Run σ} (first : Quiet r r') (second : Quiet r' r'') : Quiet r r'' :=
  ⟨(first.kept.trans second.kept).mono (by decide), first.logged.trans second.logged⟩

theorem trace (r : Run σ) (level : Nat) (text : String) : Quiet r (r.trace level text) := by
  refine ⟨(trace_keeps r level text).mono (by decide), ?_⟩
  unfold Run.trace
  split
  · exact ⟨[text], rfl⟩
  · exact .of_eq rfl

theorem judge (r : Run σ) (lastCondition : Bool) :
    Quiet r { r with script := { r.script with lastCondition } } := by
  refine ⟨?_, .of_eq rfl⟩
  intro p outside
  cases p <;> simp_all [Part.Same]

end Quiet

/-- Everything a script has and all that is queued for anyone is as it was. Messages for debugging,
the remembered condition and the client, which was asked for something, are apart. -/
structure Spares (r r' : Run σ) : Prop where
  kept : Keeps [.condition, .log, .stream, .client] r r'
  logged : Mutters r r'
  /-- In a stream that has grown from the empty one, every open subscription has a past number. -/
  queued : (∀ id ∈ r.world.stream.ids, id < r.world.stream.nextId) →
    r'.world.stream.queues = r.world.stream.queues

theorem Quiet.spares {r r' : Run σ} (quiet : Quiet r r') : Spares r r' := by
  refine ⟨quiet.kept.mono (by decide), quiet.logged, fun _ => ?_⟩
  rw [quiet.kept .stream (by decide)]

theorem Spares.after {r q q' : Run σ} (quiet : Quiet r q) (spares : Spares q q') :
    Spares r q' := by
  have stream : q.world.stream = r.world.stream := quiet.kept .stream (by decide)
  refine ⟨(quiet.kept.trans spares.kept).mono (by decide), quiet.logged.trans spares.logged, ?_⟩
  rw [← stream]
  exact spares.queued

theorem Spares.client (r : Run σ) (client : σ) :
    Spares r { r with world := { r.world with client } } := by
  refine ⟨?_, .of_eq rfl, fun _ => rfl⟩
  intro p outside
  cases p <;> simp_all [Part.Same]

/-- A command that has failed has spared everything, and one that waits does not fail when it gets
what it waits for. -/
def FailsCleanly (r : Run σ) (result : Run σ × Outcome) : Prop :=
  (∀ f, result.2 = .fault f → Spares r result.1) ∧
    ∀ w, result.2 = .waiting w → ∀ (q : Run σ) event met, q.meet w event = some met → met.2 = .done

theorem FailsCleanly.after {r q : Run σ} {result : Run σ × Outcome} (quiet : Quiet r q)
    (clean : FailsCleanly q result) : FailsCleanly r result :=
  ⟨fun f failed => (clean.1 f failed).after quiet, clean.2⟩

theorem meet_done {r : Run σ} {w : Wait} {event : GameEvent} {result : Run σ × Outcome}
    (stays : w.jumps = false) (met : r.meet w event = some result) : result.2 = .done := by
  unfold meet at met
  split at met
  · obtain ⟨groups, _, rfl⟩ := Option.map_eq_some_iff.mp met
    rfl
  · split at met
    · cases met
      rfl
    · cases met
  · cases stays
  · cases met

end Run

namespace Commands

open Run

/-- A command that fails has spared everything, and one that waits will not fail later. -/
inductive Tidy (q : Run σ) : Run σ × Outcome → Prop
  | done {q' : Run σ} : Tidy q (q', .done)
  | fault {q' : Run σ} {f : Fault} (spares : Spares q q') : Tidy q (q', .fault f)
  | waiting {q' : Run σ} {w : Wait} (stays : w.jumps = false) : Tidy q (q', .waiting w)

theorem Tidy.failsCleanly {q : Run σ} {result : Run σ × Outcome} (tidy : Tidy q result) :
    FailsCleanly q result := by
  cases tidy with
  | done => exact ⟨nofun, nofun⟩
  | fault spares => exact ⟨fun _ _ => spares, nofun⟩
  | waiting stays =>
    refine ⟨nofun, fun w waits q event met here => ?_⟩
    cases waits
    exact meet_done stays here

variable (q : Run σ) (arguments : String)

theorem fail_tidy (cause : Cause) : Tidy q (fail q cause) := .fault (Quiet.refl q).spares

theorem attempt_tidy {q q' : Run σ} (quiet : Quiet q q') (change : Except Fault (Run σ)) :
    Tidy q (attempt q' change) := by
  cases change with
  | error f => exact .fault quiet.spares
  | ok r => exact .done

theorem setVariable_tidy : Tidy q (setVariable q arguments) := by
  unfold setVariable
  split
  · exact fail_tidy q _
  · exact attempt_tidy (.trace q _ _) _

theorem setLocal_tidy : Tidy q (setLocal q arguments) := by
  unfold setLocal
  split
  · exact fail_tidy q _
  · exact .done

theorem deleteVariable_tidy : Tidy q (deleteVariable q arguments) := by
  unfold deleteVariable
  simp only
  split
  · exact fail_tidy q _
  · exact .done

theorem deleteLocal_tidy : Tidy q (deleteLocal q arguments) := by
  unfold deleteLocal
  simp only
  split
  · exact fail_tidy q _
  · exact .done

theorem goto_tidy : Tidy q (goto q arguments) := by
  unfold goto
  simp only
  split
  · exact fail_tidy q _
  · exact attempt_tidy (.refl q) _

theorem gosub_tidy : Tidy q (gosub q arguments) := by
  unfold gosub
  split
  · exact fail_tidy q _
  · exact attempt_tidy (.refl q) _

theorem matchText_tidy : Tidy q (matchText q arguments) := by
  unfold matchText
  split
  · exact fail_tidy q _
  · exact .done

theorem matchPattern_tidy : Tidy q (matchPattern q arguments) := by
  unfold matchPattern
  split
  · exact fail_tidy q _
  · split
    · exact .fault (Quiet.refl q).spares
    · exact .done

theorem waitFor_tidy : Tidy q (waitFor q arguments) := by
  unfold waitFor
  simp only
  split
  · exact fail_tidy q _
  · exact .waiting rfl

theorem waitForPattern_tidy : Tidy q (waitForPattern q arguments) := by
  unfold waitForPattern
  split
  · exact fail_tidy q _
  · split
    · exact .fault (Quiet.refl q).spares
    · exact .waiting rfl

theorem pause_tidy : Tidy q (pause q arguments) := by
  unfold pause
  simp only
  split
  · exact .waiting rfl
  · split
    · exact fail_tidy q _
    · exact .waiting rfl

theorem delay_tidy : Tidy q (delay q arguments) := by
  unfold delay
  simp only
  split
  · exact fail_tidy q _
  · exact .done

theorem debugLevel_tidy : Tidy q (debugLevel q arguments) := by
  unfold debugLevel
  split <;> exact .done

theorem random_tidy : Tidy q (random q arguments) := by
  unfold random
  split
  · exact fail_tidy q _
  · split
    · exact fail_tidy q _
    · exact fail_tidy q _
    · split
      · exact fail_tidy q _
      · exact .done

theorem timer_tidy : Tidy q (timer q arguments) := by
  unfold timer
  split
  · exact fail_tidy q _
  · simp only
    split
    · exact fail_tidy q _
    · split
      · exact .done
      · exact .done
      · exact .done
      · exact .done
      all_goals exact fail_tidy q _

variable [Client σ]

theorem operate_tidy (target : String) (words : List String) : Tidy q (operate q target words) := by
  unfold operate
  split
  · exact fail_tidy q _
  · simp only
    split
    · exact fail_tidy q _
    · split
      · exact attempt_tidy (.refl q) _
      · split
        · exact fail_tidy q _
        · split
          · exact fail_tidy q _
          · exact attempt_tidy (.trace q _ _) _

theorem math_tidy : Tidy q (math q arguments) := by
  unfold math
  split
  · exact fail_tidy q _
  · exact operate_tidy q _ _

theorem counter_tidy : Tidy q (counter q arguments) := by
  unfold counter
  split
  · exact fail_tidy q _
  · exact operate_tidy q _ _

theorem send_error {q q' : Run σ} {text : String} {f : Fault}
    (failed : send q text = (.error f, q')) :
    ∃ client, q' = { q with world := { q.world with client } } := by
  unfold send at failed
  split at failed
  · cases failed
  · cases failed
    exact ⟨_, rfl⟩

theorem put_tidy : Tidy q (put q arguments) := by
  unfold put
  simp only
  split
  · next f q' failed =>
    obtain ⟨client, rfl⟩ := send_error failed
    exact .fault (.client q client)
  · exact .done

theorem move_tidy : Tidy q (move q arguments) := by
  unfold move
  simp only
  split
  · exact fail_tidy q _
  · split
    · exact .waiting rfl
    · next f q' failed =>
      obtain ⟨client, rfl⟩ := send_error failed
      refine .fault ⟨?_, .of_eq rfl, Stream.unsubscribe_subscribe⟩
      exact (((subscribe_keeps q).trans (Spares.client _ client).kept).trans
        (unsubscribe_keeps _ _)).mono (by decide)

theorem run_tidy : Tidy q (run q arguments) := by
  unfold run
  split
  · exact fail_tidy q _
  · split
    · exact .done
    · exact .fault (.client q _)

theorem playSound_tidy : Tidy q (playSound q arguments) := by
  unfold playSound
  simp only
  split
  · exact fail_tidy q _
  · split
    · exact .fault (.client q _)
    · exact .fault (.client q _)
    · exact .done

theorem perform_tidy {command : Builtin} (others : command ≠ .matchWait ∧ command ≠ .shift) :
    Tidy q (perform q arguments command) := by
  cases command with
  | matchWait => exact absurd rfl others.1
  | shift => exact absurd rfl others.2
  | debug | echo | exit | save | ifSet _ | otherwise => exact .done
  | nextRoom | wait => exact .waiting rfl
  | counter => exact counter_tidy q arguments
  | debugLevel => exact debugLevel_tidy q arguments
  | delay => exact delay_tidy q arguments
  | deleteLocal => exact deleteLocal_tidy q arguments
  | deleteVariable => exact deleteVariable_tidy q arguments
  | gosub => exact gosub_tidy q arguments
  | goto => exact goto_tidy q arguments
  | matchText => exact matchText_tidy q arguments
  | matchPattern => exact matchPattern_tidy q arguments
  | math => exact math_tidy q arguments
  | move => exact move_tidy q arguments
  | pause => exact pause_tidy q arguments
  | playSound => exact playSound_tidy q arguments
  | put => exact put_tidy q arguments
  | random => exact random_tidy q arguments
  | returnBack => exact attempt_tidy (.refl q) _
  | run => exact run_tidy q arguments
  | setLocal => exact setLocal_tidy q arguments
  | setVariable => exact setVariable_tidy q arguments
  | timer => exact timer_tidy q arguments
  | waitFor => exact waitFor_tidy q arguments
  | waitForPattern => exact waitForPattern_tidy q arguments

end Commands

/-! ### On the way to a command -/

namespace Run

variable [Client σ]

/-- Whether no custom command is met on the way from a line to where it leads. -/
def unaided (table : CommandTable) (r : Run σ) (line : List Char) : Bool :=
  match _led : r.way table line with
  | (_, .there _) => !table.customAt line
  | (q, .onward rest) => !table.customAt line && unaided table q rest
termination_by line.length
decreasing_by exact length_lt_of_way _led

theorem unaided_standard (r : Run σ) (line : List Char) : r.unaided .standard line = true := by
  fun_induction unaided .standard r line with
  | case1 r line => simp [CommandTable.customAt_standard]
  | case2 r line q rest led ih => simp [CommandTable.customAt_standard, ih]

theorem way_quiet {table : CommandTable} {line : List Char} (builtin : table.customAt line = false)
    (r : Run σ) : Quiet r (r.way table line).1 := by
  cases parts : Arguments.splitLine? (Text.trimChars line) with
  | none =>
    simp only [way, parts]
    exact .refl r
  | some pair =>
    obtain ⟨keyword, arguments⟩ := pair
    simp only [way, parts]
    simp only [CommandTable.customAt, parts] at builtin
    refine (Quiet.trace r 2 ("Debug: " ++ String.ofList (Text.trimChars line))).trans ?_
    unfold follow
    split
    · exact .refl _
    · exact .judge _ _
    · exact .refl _
    · exact .refl _
    · next found =>
      rw [found] at builtin
      cases builtin

theorem dispatch_quiet {table : CommandTable} {r : Run σ} {line : List Char}
    (unaided : r.unaided table line = true) : Quiet r (r.dispatch table line).1 := by
  fun_induction dispatch table r line with
  | case1 r line q destination led =>
    rw [Run.unaided, led] at unaided
    have first := way_quiet ((Bool.not_eq_true' _).mp unaided) r
    rw [led] at first
    exact first
  | case2 r line q rest led ih =>
    rw [Run.unaided, led, Bool.and_eq_true] at unaided
    have first := way_quiet ((Bool.not_eq_true' _).mp unaided.1) r
    rw [led] at first
    exact first.trans (ih unaided.2)

/-- A command that fails changes nothing, whatever it is given and whatever the run is, also when it
is reached behind conditionals, as long as only builtin commands are on the way. A match that is
waited for and a shift of the arguments are exempt. A command that waits does not fail when the wait
is over. -/
theorem failed_command_spares :
    (∀ (q : Run σ) (command : Builtin) (arguments : String),
      command ≠ .matchWait ∧ command ≠ .shift →
      q.FailsCleanly (Commands.perform q arguments command)) ∧
    ∀ (table : CommandTable) (r : Run σ) (line : List Char), r.unaided table line = true →
      (∀ command arguments, (r.dispatch table line).2 = .command command arguments →
        command ≠ .matchWait ∧ command ≠ .shift) →
      r.FailsCleanly (r.execute table line) := by
  have performed : ∀ (q : Run σ) (command : Builtin) (arguments : String),
      command ≠ .matchWait ∧ command ≠ .shift →
      q.FailsCleanly (Commands.perform q arguments command) :=
    fun q _ arguments others => (Commands.perform_tidy q arguments others).failsCleanly
  refine ⟨performed, fun table r line unaided others => ?_⟩
  have quiet := dispatch_quiet unaided
  rcases execute_cases table r line with ⟨q, command, arguments, led, done⟩ | ⟨q, outcome, led, done⟩
  · rw [led] at quiet
    rw [done]
    exact (performed q command arguments (others command arguments (by rw [led]))).after quiet
  · rw [led] at quiet
    rw [done]
    refine ⟨fun f _ => quiet.spares, ?_⟩
    rintro w rfl
    cases dispatch_brief led

end Run

def Outcome.fault? : Outcome → Option Fault
  | fault f => some f
  | _ => none

/-- A script that has registered a match and cannot go north. -/
def stranded : Run MemoryClient :=
  let script := Script.create { debug := true, debugLevel := 2 } "stranded" (.parse "here:") ["x"]
  (Run.execute .standard ⟨script, { client := { refused := ["north"] } }⟩
    "match here apple".toList).1

theorem failed_command_spares_stranded :
    ∃ f, (stranded.execute .standard "if_1 move north".toList).2 = .fault f ∧
      stranded.Spares (stranded.execute .standard "if_1 move north".toList).1 ∧
      stranded.script.watch.subscription = some 0 ∧
      (stranded.execute .standard "if_1 move north".toList).1.world.stream.queues = [(0, [])] := by
  have facts :
      (stranded.dispatch .standard "if_1 move north".toList).2.command? = some (.move, "north") ∧
      (stranded.execute .standard "if_1 move north".toList).2.fault?.isSome = true ∧
      stranded.script.watch.subscription = some 0 ∧ stranded.world.stream.queues = [(0, [])] ∧
      ∀ id ∈ stranded.world.stream.ids, id < stranded.world.stream.nextId := by
    decide +kernel
  obtain ⟨led, failed, subscription, queues, past⟩ := facts
  have others : ∀ command arguments, (stranded.dispatch .standard "if_1 move north".toList).2 =
      .command command arguments → command ≠ .matchWait ∧ command ≠ .shift := by
    intro command arguments there
    rw [there] at led
    cases led
    decide
  cases outcome : (stranded.execute .standard "if_1 move north".toList).2 with
  | fault f =>
    have spares :=
      (Run.failed_command_spares.2 _ _ _ (Run.unaided_standard _ _) others).1 f outcome
    exact ⟨f, rfl, spares, subscription, (spares.queued past).trans queues⟩
  | _ =>
    rw [outcome] at failed
    cases failed

end Questline
