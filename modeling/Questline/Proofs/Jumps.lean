import Questline.Proofs.Branches
import Questline.Proofs.Heading

/-! What a step does to the line that comes next. A step leaves it alone or jumps: it goes to a
label, calls a subroutine or returns from one, by a command of the script, for a custom command or
because a match was found. Wherever a jump leads there is a command, or there is nothing left to
run. -/
namespace Questline

variable {σ : Type} {wake : Wake}

def Program.Points (p : Program) : Option Nat → Prop
  | none => True
  | some index => (p.command? index).isSome

theorem Program.IsFirstFrom.points {p : Program} {index : Nat} {first : Option Nat}
    (isFirst : p.IsFirstFrom index first) : p.Points first := by
  cases first with
  | none => trivial
  | some n => exact isFirst.2.1

theorem Program.points_firstAt (p : Program) (index : Nat) : p.Points (p.firstAt? index) :=
  (p.firstAt_isFirstFrom index).points

theorem Program.points_behind (p : Program) (line : Option Nat) : p.Points (line.bind p.next?) := by
  cases line with
  | none => trivial
  | some index => exact p.points_firstAt (index + 1)

theorem Program.points_of_resolve {p : Program} {label : String} {target : Program.JumpTarget}
    (resolved : p.resolve label = .ok target) : p.Points target.line := by
  cases line : target.line with
  | none => trivial
  | some index => exact Run.resolve_command resolved line

def Action.requests (arguments : String) : Action → List Request
  | custom handler => (handler arguments).1
  | builtin _ => []

def CommandTable.requests (table : CommandTable) (line : List Char) : List Request :=
  match Arguments.splitLine? (Text.trimChars line) with
  | none => []
  | some (keyword, arguments) =>
    (table.get? (String.ofList keyword)).elim [] (Action.requests (String.ofList arguments))

theorem CommandTable.requests_standard (line : List Char) :
    CommandTable.standard.requests line = [] := by
  unfold requests
  split
  · rfl
  · next keyword arguments _ =>
    cases found : CommandTable.standard.get? (String.ofList keyword) with
    | none => rfl
    | some action =>
      obtain ⟨command, rfl, _⟩ := CommandTable.standard_get found
      rfl

namespace Run

/-- The line that comes next is the same, or it is one that a jump led to. -/
structure Steers (jumps : Prop) (r r' : Run σ) : Prop where
  program : r'.script.program = r.script.program
  next : r'.script.next = r.script.next ∨ jumps ∧ r.script.program.Points r'.script.next

namespace Steers

variable {jumps : Prop} {r r' r'' : Run σ}

theorem refl (jumps : Prop) (r : Run σ) : Steers jumps r r := ⟨rfl, .inl rfl⟩

theorem trans (first : Steers jumps r r') (second : Steers jumps r' r'') : Steers jumps r r'' := by
  constructor
  · exact second.program.trans first.program
  · rcases second.next with same | ⟨jumped, points⟩
    · rw [same]
      exact first.next
    · rw [first.program] at points
      exact .inr ⟨jumped, points⟩

theorem mono {more : Prop} (wider : jumps → more) (steers : Steers jumps r r') :
    Steers more r r' :=
  ⟨steers.program, steers.next.imp_right (.imp_left wider)⟩

theorem of_keeps {parts : List Part} (kept : Keeps parts r r')
    (aside : ∀ p ∈ [Part.identity, .next], p ∉ parts) : Steers jumps r r' :=
  ⟨(kept .identity (aside _ (by decide))).2.1, .inl (kept .next (aside _ (by decide)))⟩

theorem points (steers : Steers jumps r r') (before : r.script.program.Points r.script.next) :
    r'.script.program.Points r'.script.next := by
  rw [steers.program]
  rcases steers.next with same | ⟨_, points⟩
  · rw [same]
    exact before
  · exact points

theorem next_of_not (steers : Steers jumps r r') (stays : ¬ jumps) :
    r'.script.next = r.script.next :=
  steers.next.resolve_right fun jumped => stays jumped.1

end Steers

/-! ### Commands -/

theorem goto_steers {r r' : Run σ} {label : String} (done : r.goto label = .ok r') :
    Steers True r r' := by
  obtain ⟨target, resolved, next, kept⟩ := goto_ok done
  refine ⟨(kept .identity (by decide)).2.1, .inr ⟨trivial, ?_⟩⟩
  rw [next]
  exact Program.points_of_resolve resolved

theorem gosub_steers {r r' : Run σ} {label arguments : String}
    (done : r.gosub label arguments = .ok r') : Steers True r r' := by
  obtain ⟨target, resolved, next, _, kept⟩ := gosub_ok done
  refine ⟨(kept .identity (by decide)).2.1, .inr ⟨trivial, ?_⟩⟩
  rw [next]
  exact Program.points_of_resolve resolved

theorem returnBack_steers {r r' : Run σ} (done : r.returnBack = .ok r') : Steers True r r' := by
  obtain ⟨frame, _, _, next, kept⟩ := returnBack_ok done
  refine ⟨(kept .identity (by decide)).2.1, .inr ⟨trivial, ?_⟩⟩
  rw [next]
  exact Program.points_firstAt _ _

theorem attempt_steers (r : Run σ) {change : Except Fault (Run σ)}
    (steers : ∀ r', change = .ok r' → Steers True r r') :
    Steers ((Commands.attempt r change).2 = .done) r (Commands.attempt r change).1 := by
  cases change with
  | error f => exact .refl _ r
  | ok r' => exact (steers r' rfl).mono fun _ => rfl

variable [Client σ]

/-- Of the builtin commands only jumps that succeed change the line that comes next. -/
theorem perform_steers (q : Run σ) (arguments : String) (command : Builtin) :
    Steers (command.jumps ∧ (Commands.perform q arguments command).2 = .done) q
      (Commands.perform q arguments command).1 := by
  cases stays : command.jumps with
  | false =>
    refine .of_keeps (Commands.perform_keeps q arguments command) ?_
    have next := Builtin.next_of_jumps stays
    have identity : Part.identity ∉ command.touches := by
      cases command <;> simp [Builtin.touches]
    simp [next, identity]
  | true =>
    simp only [true_and]
    cases command with
    | goto =>
      simp only [Commands.perform, Commands.goto]
      split
      · exact .refl _ q
      · exact attempt_steers q fun _ => goto_steers
    | gosub =>
      simp only [Commands.perform, Commands.gosub]
      split
      · exact .refl _ q
      · exact attempt_steers q fun _ => gosub_steers
    | returnBack => exact attempt_steers q fun _ => returnBack_steers
    | _ => cases stays

theorem grant_steers {r r' : Run σ} {request : Request} (granted : r.grant request = .ok r') :
    Steers (∃ label, request = .goto label) r r' := by
  cases request with
  | echo text =>
    cases granted
    exact .of_keeps (note_keeps r _) (by decide)
  | trace level text =>
    cases granted
    exact .of_keeps (trace_keeps r level text) (by decide)
  | publish event =>
    cases granted
    exact ⟨rfl, .inl rfl⟩
  | goto label => exact (goto_steers granted).mono fun _ => ⟨label, rfl⟩
  | stop =>
    cases granted
    exact .of_keeps (stop_keeps r) (by decide)
  | setSpecial name value =>
    cases granted
    exact .of_keeps (setSpecial_keeps r name _) (by decide)
  | inspect names =>
    cases granted
    exact .of_keeps (note_keeps r _) (by decide)

theorem grantAll_steers (r : Run σ) (requests : List Request) :
    Steers (∃ label, .goto label ∈ requests) r (r.grantAll requests).1 := by
  induction requests generalizing r with
  | nil => exact .refl _ r
  | cons request rest ih =>
    unfold grantAll
    split
    · next first =>
      refine ((grant_steers first).mono ?_).trans ((ih _).mono ?_)
      · rintro ⟨label, rfl⟩
        exact ⟨label, List.mem_cons_self⟩
      · rintro ⟨label, asked⟩
        exact ⟨label, List.mem_cons_of_mem _ asked⟩
    · exact .refl _ r

theorem follow_steers (r : Run σ) (shown : String) (arguments : List Char)
    (action : Option Action) :
    Steers (∃ label, .goto label ∈ action.elim [] (Action.requests (String.ofList arguments))) r
      (r.follow shown arguments action).1 := by
  unfold follow
  split
  · exact .refl _ r
  · exact ⟨rfl, .inl rfl⟩
  · exact .refl _ r
  · exact .refl _ r
  · next handler =>
    have granted := grantAll_steers r (handler (String.ofList arguments)).1
    simp only
    split
    · next answer => rw [answer] at granted; exact granted
    · next answer => rw [answer] at granted; exact granted

theorem way_steers (table : CommandTable) (r : Run σ) (line : List Char) :
    Steers (∃ label, .goto label ∈ table.requests line) r (r.way table line).1 := by
  unfold way CommandTable.requests
  cases Arguments.splitLine? (Text.trimChars line) with
  | none => exact .refl _ r
  | some split =>
    obtain ⟨keyword, arguments⟩ := split
    have shown := trace_keeps r 2 ("Debug: " ++ String.ofList (Text.trimChars line))
    exact (Steers.of_keeps shown (by decide)).trans (follow_steers _ _ _ _)

/-- A custom command through which a line is led asks for a jump. -/
def AsksForJump (table : CommandTable) (r : Run σ) (line : List Char) : Prop :=
  ∃ q inner label, ComesTo table r line q inner ∧ .goto label ∈ table.requests inner

theorem dispatch_steers (table : CommandTable) (r : Run σ) (line : List Char) :
    Steers (AsksForJump table r line) r (r.dispatch table line).1 := by
  fun_induction dispatch table r line with
  | case1 r line q destination led =>
    have first := way_steers table r line
    rw [led] at first
    refine first.mono ?_
    rintro ⟨label, asked⟩
    exact ⟨r, line, label, .here, asked⟩
  | case2 r line q rest led ih =>
    have first := way_steers table r line
    rw [led] at first
    refine (first.mono ?_).trans (ih.mono ?_)
    · rintro ⟨label, asked⟩
      exact ⟨r, line, label, .here, asked⟩
    · rintro ⟨q', inner, label, reached, asked⟩
      exact ⟨q', inner, label, .onward led reached, asked⟩

/-- The next step of a script, woken in some way, jumps, or would if the label were there. -/
inductive Jumps (table : CommandTable) (wake : Wake) (r : Run σ) : Prop
  | command {command : Builtin} (done : r.carriesOut? table wake = some command)
      (jumps : command.jumps)
  | custom {q : Run σ} {line : String} (turn : r.turn? wake = some (.execute q line))
      (asks : AsksForJump table q line.toList)
  | hit {id : Nat} {pending : List PendingMatch} {deadline : Option Nat} {text : String}
      {stream : Stream} (waits : r.script.phase = .waiting (.hit id pending deadline))
      (takes : wake = .event) (taken : r.world.stream.take? id = some (.line text, stream))
      (matched : (firstHit? pending text).isSome)

theorem execute_steers (table : CommandTable) {r q : Run σ} {line : String}
    (turn : r.turn? wake = some (.execute q line)) :
    Steers (r.Jumps table wake) q (q.execute table line.toList).1 := by
  have led : Steers (r.Jumps table wake) q (q.dispatch table line.toList).1 :=
    (dispatch_steers table q line.toList).mono (.custom turn)
  rcases execute_cases table q line.toList with
    ⟨q', command, arguments, found, done⟩ | ⟨q', outcome, found, done⟩
  · rw [found] at led
    rw [done]
    refine led.trans ((perform_steers q' arguments command).mono ?_)
    rintro ⟨jumps, finished⟩
    refine .command ?_ jumps
    simp only [carriesOut?, leadsTo?, turn, found, Option.bind_some, finished]
  · rw [found] at led
    rw [done]
    exact led

/-- A command that gets what it waited for goes on as before, or a match takes it to a label. -/
theorem meet_steers {table : CommandTable} {r : Run σ} {w : Wait} {id : Nat} {event : GameEvent}
    {stream : Stream} {result : Run σ × Outcome} (waits : r.script.phase = .waiting w)
    (takes : wake = .event) (listens : w.subscription? = some id)
    (taken : r.world.stream.take? id = some (event, stream))
    (met : (r.withStream stream).meet w event = some result) :
    Steers (r.Jumps table wake) r result.1 := by
  have released : Steers (r.Jumps table wake) r ((r.withStream stream).release w) :=
    .of_keeps ((withStream_keeps r stream).trans (release_keeps _ w)) (by decide)
  unfold meet at met
  split at met
  · obtain ⟨groups, _, rfl⟩ := Option.map_eq_some_iff.mp met
    refine released.trans ?_
    simp only
    split
    · exact .of_keeps (bindGroups_keeps _ groups) (by decide)
    · exact .refl _ _
  · split at met
    · cases met
      exact released
    · cases met
  · obtain ⟨hit, found, rfl⟩ := Option.map_eq_some_iff.mp met
    cases listens
    have matched := Option.isSome_of_eq_some found
    refine released.trans ?_
    generalize (r.withStream stream).release _ = q
    have bound : Steers (r.Jumps table wake) q (hit.groups.elim q q.bindGroups) := by
      cases hit.groups with
      | none => exact .refl _ q
      | some groups => exact .of_keeps (bindGroups_keeps q groups) (by decide)
    refine bound.trans ((attempt_steers _ fun _ => goto_steers).mono fun _ => ?_)
    exact .hit waits takes taken matched
  · cases met

end Run

end Questline
