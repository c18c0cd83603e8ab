import Questline.MemoryClient
import Questline.Proofs.Moves
import Questline.Proofs.Turns

/-! Calls and returns are well bracketed. Only a call puts a frame on the stack and only a return
takes one off, so a frame stays where it is as long as the stack does not get lower; the return that
takes it off then finds the caller's locals and the line after the call. -/
namespace Questline

/-- The least index from `index` on that holds a command, or none if no such index does. -/
def Program.IsFirstFrom (p : Program) (index : Nat) : Option Nat → Prop
  | some n => index ≤ n ∧ (p.command? n).isSome ∧ ∀ m, index ≤ m → m < n → p.command? m = none
  | none => ∀ m, index ≤ m → p.command? m = none

theorem Program.firstAt_isFirstFrom (p : Program) (index : Nat) :
    p.IsFirstFrom index (p.firstAt? index) := by
  have shifted : ∀ m, index ≤ m → p.command? m = ((p.commands.drop index)[m - index]?).join := by
    intro m above
    rw [List.getElem?_drop, Nat.add_sub_cancel' above, Program.command?]
  unfold firstAt?
  cases found : (p.commands.drop index).findIdx? Option.isSome with
  | none =>
    intro m above
    rw [shifted m above]
    cases entry : (p.commands.drop index)[m - index]? with
    | none => rfl
    | some line =>
      have absent := List.findIdx?_eq_none_iff.mp found line (List.mem_of_getElem? entry)
      simpa using absent
  | some k =>
    obtain ⟨inside, present, absent⟩ := List.findIdx?_eq_some_iff_getElem.mp found
    refine ⟨Nat.le_add_left index k, ?_, ?_⟩
    · rw [shifted _ (Nat.le_add_left index k), Nat.add_sub_cancel,
        List.getElem?_eq_getElem inside, Option.join_some]
      exact present
    · intro m above below
      have earlier : m - index < k := Nat.sub_lt_right_of_lt_add above below
      rw [shifted m above, List.getElem?_eq_getElem (Nat.lt_trans earlier inside), Option.join_some]
      simpa using absent _ earlier

namespace Program

variable {p : Program} {index : Nat}

theorem IsFirstFrom.eq {first second : Option Nat} (isFirst : p.IsFirstFrom index first)
    (isSecond : p.IsFirstFrom index second) : first = second := by
  have earlier : ∀ {n m : Nat}, p.IsFirstFrom index (some n) → p.IsFirstFrom index (some m) →
      ¬ n < m := by
    rintro n m ⟨above, present, _⟩ ⟨_, _, absent⟩ before
    rw [absent n above before] at present
    cases present
  cases first with
  | none =>
    cases second with
    | none => rfl
    | some m =>
      obtain ⟨above, present, _⟩ := isSecond
      rw [isFirst m above] at present
      cases present
  | some n =>
    cases second with
    | none =>
      obtain ⟨above, present, _⟩ := isFirst
      rw [isSecond n above] at present
      cases present
    | some m =>
      have before := earlier isFirst isSecond
      have after := earlier isSecond isFirst
      exact congrArg some (by omega)

theorem firstAt_of_command (present : (p.command? index).isSome) :
    p.firstAt? index = some index := by
  refine (p.firstAt_isFirstFrom index).eq ⟨Nat.le_refl _, present, ?_⟩
  intro m above below
  omega

theorem firstAt_of_none (absent : p.command? index = none) :
    p.firstAt? index = p.next? index := by
  have from_ : ∀ m, index ≤ m → p.command? m = none ∨ index + 1 ≤ m := by
    intro m above
    rcases Nat.lt_or_eq_of_le above with later | rfl
    · exact .inr later
    · exact .inl absent
  refine (p.firstAt_isFirstFrom index).eq ?_
  have next := p.firstAt_isFirstFrom (index + 1)
  unfold next?
  cases found : p.firstAt? (index + 1) with
  | none =>
    rw [found] at next
    exact fun m above => (from_ m above).elim id (next m)
  | some n =>
    rw [found] at next
    obtain ⟨above, present, between⟩ := next
    exact ⟨Nat.le_of_succ_le above, present,
      fun m above below => (from_ m above).elim id fun later => between m later below⟩

theorem firstAt_firstAt (start : Nat) :
    (p.firstAt? start).bind p.firstAt? = p.firstAt? start := by
  cases found : p.firstAt? start with
  | none => rfl
  | some n =>
    have isFirst := p.firstAt_isFirstFrom start
    rw [found] at isFirst
    exact firstAt_of_command isFirst.2.1

end Program

variable {σ : Type} [Client σ] {wake : Wake}

namespace Run

theorem gosub_done {q : Run σ} {arguments : String}
    (done : (Commands.perform q arguments .gosub).2 = .done) :
    ∃ label rest, q.gosub label rest = .ok (Commands.perform q arguments .gosub).1 := by
  simp only [Commands.perform, Commands.gosub] at done ⊢
  split at done
  · cases done
  · next label rest _ => exact ⟨label, rest, Commands.ok_of_attempt done⟩

theorem line_of_carriesOut {table : CommandTable} {r r' : Run σ} {command : Builtin}
    (done : r.carriesOut? table wake = some command) (stepped : r.step? table wake = some r') :
    ∃ g, r'.script.line = some g := by
  obtain ⟨q, arguments, led, finished⟩ := carriesOut_some done
  obtain ⟨q₀, line, turn, way⟩ := leadsTo_some led
  obtain ⟨g, place⟩ : ∃ g, q₀.script.line = some g := by
    cases turn_takes turn with
    | comeUp _ _ _ _ comes =>
      cases comes with
      | execute _ found =>
        obtain ⟨g, place, _⟩ := Option.bind_eq_some_iff.mp found
        exact ⟨g, place⟩
  have led' := (dispatch_keeps table q₀ line.toList .position (by decide)).2.2.2.2
  rw [way] at led'
  have aloof : Part.position ∉ command.touches := by
    cases command <;> simp [Builtin.touches]
  have performed := (Commands.perform_keeps q arguments command .position aloof).2.2.2.2
  cases stepped.symm.trans (step_of_leadsTo led)
  rw [conclude_done finished]
  exact ⟨g, (performed.trans led').trans place⟩

theorem step_of_gosub {table : CommandTable} {r r' : Run σ}
    (done : r.carriesOut? table wake = some .gosub) (stepped : r.step? table wake = some r') :
    r'.script.frames =
      { resume := r'.script.line.elim 0 (· + 1), locals := r.script.vars.locals } ::
        r.script.frames := by
  obtain ⟨q, arguments, led, finished⟩ := carriesOut_some done
  cases stepped.symm.trans (step_of_leadsTo led)
  have frames : q.script.frames = r.script.frames := leadsTo_keeps led .frames (by decide)
  have locals : q.script.vars.locals = r.script.vars.locals := leadsTo_keeps led .locals (by decide)
  obtain ⟨label, rest, called⟩ := gosub_done finished
  obtain ⟨_, _, _, pushed, kept⟩ := gosub_ok called
  have line := (kept .position (by decide)).2.2.2.2
  rw [conclude_done finished]
  simp only [moveOn]
  rw [pushed, line, frames, locals]

theorem step_of_return {table : CommandTable} {r r' : Run σ}
    (done : r.carriesOut? table wake = some .returnBack) (stepped : r.step? table wake = some r') :
    ∃ frame, r.script.frames = frame :: r'.script.frames ∧
      r'.script.vars.locals = frame.locals ∧
      r'.script.next = r.script.program.firstAt? frame.resume := by
  obtain ⟨q, arguments, led, finished⟩ := carriesOut_some done
  cases stepped.symm.trans (step_of_leadsTo led)
  have frames : q.script.frames = r.script.frames := leadsTo_keeps led .frames (by decide)
  have program := (leadsTo_keeps led .identity (by decide)).2.1
  obtain ⟨frame, popped, locals, next, _⟩ := returnBack_ok (Commands.ok_of_attempt finished)
  rw [conclude_done finished]
  refine ⟨frame, ?_, locals, ?_⟩
  · rw [← frames]
    exact popped
  · rw [← program]
    exact next

/-- A command that is not a call or a return, or that fails, leaves the stack alone. -/
theorem perform_frames (q : Run σ) (arguments : String) (command : Builtin) :
    (Commands.perform q arguments command).1.script.frames = q.script.frames ∨
      (Commands.perform q arguments command).2 = .done ∧
        (command = .gosub ∨ command = .returnBack) := by
  by_cases touched : Part.frames ∈ command.touches
  · cases command with
    | gosub =>
      simp only [Commands.perform, Commands.gosub]
      split
      · exact .inl rfl
      · next label rest _ =>
        rcases Commands.attempt_cases q (q.gosub label rest) with same | done
        · exact .inl (by rw [same])
        · exact .inr ⟨done, .inl trivial⟩
    | returnBack =>
      rcases Commands.attempt_cases q q.returnBack with same | done
      · exact .inl (by simp only [Commands.perform]; rw [same])
      · exact .inr ⟨done, .inr rfl⟩
    | _ => simp [Builtin.touches] at touched
  · exact .inl (Commands.perform_keeps q arguments command .frames touched)

theorem step_frames {table : CommandTable} {r r' : Run σ} (stepped : r.step? table wake = some r') :
    r'.script.frames = r.script.frames ∨ r.carriesOut? table wake = some .gosub ∨
      r.carriesOut? table wake = some .returnBack := by
  have concluded : ∀ (q : Run σ) outcome, (conclude (q, outcome)).script.frames = q.script.frames :=
    fun q outcome => conclude_keeps q outcome .frames (by decide)
  rcases step_leads stepped with ⟨q, command, arguments, led, rfl⟩ | ⟨_, turn | aside⟩
  · have way : q.script.frames = r.script.frames := leadsTo_keeps led .frames (by decide)
    rcases perform_frames q arguments command with same | ⟨finished, which⟩
    · exact .inl ((concluded _ _).trans (same.trans way))
    · have out : r.carriesOut? table wake = some command := by
        simp only [carriesOut?, led, Option.bind_some, finished]
      rcases which with rfl | rfl
      · exact .inr (.inl out)
      · exact .inr (.inr out)
  · exact .inl (ended_keeps turn .frames (by decide))
  · obtain ⟨q, line, q', outcome, turn, led, rfl⟩ := aside
    have way : q'.script.frames = q.script.frames := by
      have kept := dispatch_keeps table q line.toList .frames (by decide)
      rw [led] at kept
      exact kept
    have before : q.script.frames = r.script.frames :=
      (execute_turn turn).2.2.2.2 .frames (by decide)
    exact .inl ((concluded q' outcome).trans (way.trans before))

/-- Frames stay on the stack as long as it does not get lower than they are. -/
theorem step_suffix {table : CommandTable} {r r' : Run σ} {base : List Frame}
    (stepped : r.step? table wake = some r') (inside : base <:+ r.script.frames)
    (deep : base.length ≤ r'.script.frames.length) : base <:+ r'.script.frames := by
  rcases step_frames stepped with same | call | back
  · rw [same]
    exact inside
  · rw [step_of_gosub call stepped]
    exact inside.trans (List.suffix_cons _ _)
  · obtain ⟨frame, popped, _⟩ := step_of_return back stepped
    rw [popped] at inside
    rcases List.suffix_cons_iff.mp inside with whole | inside
    · rw [whole, List.length_cons] at deep
      omega
    · exact inside

end Run

namespace Engine

def depth (e : Engine σ) (i : Nat) : Nat := ((e.scripts[i]?).map (·.frames.length)).getD 0

/-- The builtin command that the script at an index carries out with success in its next step. -/
def carriesOut? (e : Engine σ) (i : Nat) (wake : Wake) : Option Builtin :=
  (e.scripts[i]?).bind fun s => Run.carriesOut? e.table wake ⟨s, e.world⟩

theorem fares_suffix {e : Engine σ} {m : Move σ} {i : Nat} {s s' : Script} {base : List Frame}
    (fares : e.Fares m i s s') (inside : base <:+ s.frames)
    (deep : base.length ≤ s'.frames.length) : base <:+ s'.frames := by
  cases fares with
  | aside handled =>
    rw [(handled.keeps e.world).1 .frames (by decide)]
    exact inside
  | step _ stepped => exact Run.step_suffix stepped inside deep

/-- Along any moves frames stay on the stack as long as it does not get lower than they are. -/
theorem after_suffix {e : Engine σ} {i : Nat} {s : Script} {base : List Frame}
    (found : e.scripts[i]? = some s) (inside : base <:+ s.frames) {moves : List (Move σ)}
    (deep : e.Throughout (fun e => base.length ≤ e.depth i) moves) :
    ∃ s', (e.after moves).scripts[i]? = some s' ∧ s'.program = s.program ∧ base <:+ s'.frames := by
  induction moves generalizing e s with
  | nil => exact ⟨s, found, rfl, inside⟩
  | cons m rest ih =>
    obtain ⟨s₁, found₁, fares⟩ := script_fares found m
    have deep₁ : base.length ≤ s₁.frames.length := by
      simpa [depth, found₁] using deep.2.first
    obtain ⟨s', last, program, kept⟩ := ih found₁ (fares_suffix fares inside deep₁) deep.2
    exact ⟨s', last, program.trans fares.program, kept⟩

theorem carriesOut_step {e : Engine σ} {i : Nat} {s s' : Script} {command : Builtin}
    (found : e.scripts[i]? = some s) (done : e.carriesOut? i wake = some command)
    (next : (e.moved (.step i wake)).scripts[i]? = some s') :
    ∃ r, Run.carriesOut? e.table wake ⟨s, e.world⟩ = some command ∧
      Run.step? e.table wake ⟨s, e.world⟩ = some r ∧ s' = r.script := by
  simp only [carriesOut?, found, Option.bind_some] at done
  obtain ⟨q, arguments, led, _⟩ := Run.carriesOut_some done
  have stepped := Run.step_of_leadsTo led
  exact ⟨_, done, stepped, Option.some.inj (next.symm.trans (script_step found stepped))⟩

/-- A return restores what the call it belongs to found. Whatever has happened since the call, the
return that first brings the stack back to the caller's depth leaves the caller's locals and goes on
with the first command after the line of the call. -/
theorem return_restores_caller (e : Engine σ) (i : Nat) {wake wake' : Wake}
    (between : List (Move σ)) {caller called back : Script} (before : e.scripts[i]? = some caller)
    (call : e.carriesOut? i wake = some .gosub)
    (entered : (e.moved (.step i wake)).scripts[i]? = some called)
    (inside : (e.moved (.step i wake)).Throughout (fun e => caller.frames.length < e.depth i)
      between)
    (leave : ((e.moved (.step i wake)).after between).carriesOut? i wake' = some .returnBack)
    (returned : (((e.moved (.step i wake)).after between).moved (.step i wake')).scripts[i]? =
      some back)
    (level : back.frames.length = caller.frames.length) :
    ∃ g, called.line = some g ∧ back.vars.locals = caller.vars.locals ∧
      caller.program.IsFirstFrom (g + 1) back.next := by
  obtain ⟨r, calls, stepped, rfl⟩ := carriesOut_step before call entered
  obtain ⟨g, place⟩ := Run.line_of_carriesOut calls stepped
  have pushed := Run.step_of_gosub calls stepped
  rw [place] at pushed
  -- the frame of this call and those below it are still there when the return comes
  have whole : ({ resume := g + 1, locals := caller.vars.locals } :: caller.frames) <:+
      r.script.frames := by
    rw [pushed]
    exact List.suffix_rfl
  obtain ⟨callee, found, program, kept⟩ := after_suffix entered whole inside
  obtain ⟨r', returns, stepped', rfl⟩ := carriesOut_step found leave returned
  obtain ⟨frame, popped, locals, next⟩ := Run.step_of_return returns stepped'
  have same : frame = { resume := g + 1, locals := caller.vars.locals } := by
    rw [popped] at kept
    have whole := kept.eq_of_length (by rw [List.length_cons, List.length_cons, level])
    exact (List.cons.inj whole).1.symm
  subst same
  have unchanged : callee.program = caller.program :=
    program.trans (Run.step_program stepped)
  refine ⟨g, place, locals, ?_⟩
  rw [next, unchanged]
  exact Program.firstAt_isFirstFrom _ _

def calling : Engine MemoryClient :=
  (plain {}).after
    [.start "calls" "gosub sub x\nexit\nsub:\nsetlocalvariable 1 y\nreturn" ["z"],
      .step 0 .message]

theorem return_restores_caller_calling :
    let called := (calling.moved (.step 0 .message)).after [.step 0 .message, .publish .prompt]
    ∃ (g : Nat) (caller back : Script), calling.scripts[0]? = some caller ∧
      (called.moved (.step 0 .message)).scripts[0]? = some back ∧
      back.vars.locals = caller.vars.locals ∧ caller.program.IsFirstFrom (g + 1) back.next := by
  intro called
  have facts : (calling.scripts[0]?).map (fun s : Script => s.frames.length) = some 0 ∧
      calling.carriesOut? 0 .message = some .gosub ∧
      (calling.moved (.step 0 .message)).Throughout (fun e => 0 < e.depth 0)
        [.step 0 .message, .publish .prompt] ∧
      called.carriesOut? 0 .message = some .returnBack ∧
      ((called.moved (.step 0 .message)).scripts[0]?).map (fun s : Script => s.frames.length) =
        some 0 := by
    decide +kernel
  obtain ⟨first, call, inside, leave, last⟩ := facts
  obtain ⟨caller, before, shallow⟩ := Option.map_eq_some_iff.mp first
  obtain ⟨back, returned, level⟩ := Option.map_eq_some_iff.mp last
  obtain ⟨_, entered, _⟩ := script_fares before (.step 0 .message)
  have inside : (calling.moved (.step 0 .message)).Throughout
      (fun e => caller.frames.length < e.depth 0) [.step 0 .message, .publish .prompt] := by
    rw [shallow]
    exact inside
  obtain ⟨g, _, locals, next⟩ := return_restores_caller calling 0
    [.step 0 .message, .publish .prompt] before call entered inside leave returned
    (level.trans shallow.symm)
  exact ⟨g, caller, back, before, returned, locals, next⟩

end Engine

end Questline
