import Questline.Proofs.Verdict

/-! How a session comes to its exit code. Once all scripts have come to their ends, the supervisor
lets go of one after the other and rests, and the exit code tells whether a fatal fault was
announced. -/
namespace Questline

/-- How far a duty is from letting go of one of `n` scripts or, if there is none, from rest. -/
def Duty.distance (n : Nat) : Duty → Nat
  | .look index => if n = 0 then 1 else if index < n then 3 else 6
  | .listen index isActive => if isActive then 7 else if index < n then 2 else 8
  | .part index => if index < n then 1 else 7
  | .receive _ => 5
  | .tend => 4
  | .rest => 0

namespace Session

/-- Every script is at its end, and no request that is on its way can be met. -/
structure Done (s : Session) : Prop where
  finished : ∀ c ∈ s.engine.scripts, c.isFinished ∧ c.isActive = false
  unmet : ∀ request ∈ s.console.requests,
    ∃ f, Source.find s.console.disk request.name s.base = .error f

/-- An upper bound on the acts that the supervisor has still to do. -/
def remaining (s : Session) : Nat :=
  9 * s.engine.scripts.length + s.duty.distance s.engine.scripts.length

variable {s s' : Session}

theorem Done.tend (done : s.Done) : s.stopStarving = { s with starvingSince := none } := by
  have nobody : s.engine.scripts.any Script.isWaitingOpenly = false := by
    rw [List.any_eq_false]
    intro c member
    have finished := (done.finished c member).1
    unfold Script.isFinished at finished
    split at finished
    · next phase => simp [Script.isWaitingOpenly, phase]
    · cases finished
  rw [stopStarving, nobody, Bool.and_false]
  rfl

theorem Done.supervise (done : s.Done) (supervises : Supervises s s') :
    s'.Done ∧ s'.remaining < s.remaining := by
  obtain ⟨finished, unmet⟩ := done
  cases supervises with
  | look duty found =>
    obtain ⟨within, _⟩ := List.getElem?_eq_some_iff.mp found
    have inactive := (finished _ (List.mem_of_getElem? found)).2
    refine ⟨⟨finished, unmet⟩, ?_⟩
    grind [remaining, Duty.distance]
  | retire duty alone =>
    refine ⟨⟨finished, unmet⟩, ?_⟩
    grind [remaining, Duty.distance]
  | await duty beyond some =>
    refine ⟨⟨finished, unmet⟩, ?_⟩
    grind [remaining, Duty.distance]
  | @listen index isActive duty =>
    have length : (s.listenTo index).engine.scripts.length = s.engine.scripts.length :=
      List.length_modify _ _ _
    refine ⟨⟨fun c member => ?_, unmet⟩, ?_⟩
    · obtain ⟨i, here⟩ := List.mem_iff_getElem?.mp member
      simp only [listenTo, List.getElem?_modify] at here
      obtain ⟨c₀, was, rfl⟩ := Option.map_eq_some_iff.mp here
      split
      · exact finished c₀ (List.mem_of_getElem? was)
      · exact finished c₀ (List.mem_of_getElem? was)
    · grind [remaining, Duty.distance]
  | @part index duty here =>
    have length : (s.letGoOf index).engine.scripts.length =
        if index < s.engine.scripts.length then s.engine.scripts.length - 1
        else s.engine.scripts.length := List.length_eraseIdx
    refine ⟨⟨fun c member => finished c (List.mem_of_mem_eraseIdx member), unmet⟩, ?_⟩
    grind [remaining, Duty.distance]
  | @take deadline request requests duty waiting =>
    rw [waiting] at unmet
    obtain ⟨f, missing⟩ := unmet request List.mem_cons_self
    unfold start
    split
    · next loaded found => cases missing.symm.trans found
    · refine ⟨⟨finished, fun other member => unmet other (List.mem_cons_of_mem _ member)⟩, ?_⟩
      change 9 * s.engine.scripts.length + 4 < s.remaining
      rw [remaining, duty]
      exact Nat.lt_succ_self _
  | lapse duty none =>
    refine ⟨⟨finished, unmet⟩, ?_⟩
    grind [remaining, Duty.distance]
  | tend duty =>
    rw [Done.tend ⟨finished, unmet⟩]
    refine ⟨⟨finished, unmet⟩, ?_⟩
    grind [remaining, Duty.distance]

theorem Done.acts (done : s.Done) (busy : s.duty ≠ .rest)
    (due : ∀ deadline, s.duty = .receive deadline → deadline ≤ s.now) :
    ∃ s', s.supervise? = some s' := by
  unfold supervise?
  split
  · split
    · exact ⟨_, rfl⟩
    · split <;> exact ⟨_, rfl⟩
  · exact ⟨_, rfl⟩
  · next index duty =>
    have finished : (s.engine.scripts[index]?).all Script.isFinished := by
      cases found : s.engine.scripts[index]? with
      | none => rfl
      | some c => exact (done.finished c (List.mem_of_getElem? found)).1
    rw [if_pos finished]
    exact ⟨_, rfl⟩
  · next deadline duty =>
    split
    · exact ⟨_, rfl⟩
    · rw [if_pos (due deadline duty)]
      exact ⟨_, rfl⟩
  · exact ⟨_, rfl⟩
  · next duty => exact absurd duty busy

def Act.isSupervision : Act → Bool
  | .of .supervisor | .elapse _ => true
  | _ => false

/-- The supervisor needs nobody but itself and some time to come to rest. -/
theorem Done.rests (done : s.Done) :
    ∃ acts : List Act, (∀ a ∈ acts, a.isSupervision) ∧ (s.after acts).duty = .rest := by
  -- Each act of the supervisor, after a wait if it waits for a request, brings it nearer to rest.
  induction bound : s.remaining using Nat.strong_induction_on generalizing s with
  | _ n ih =>
    by_cases rests : s.duty = .rest
    · exact ⟨[], by simp, rests⟩
    · obtain ⟨wait, due⟩ : ∃ wait, ∀ deadline, s.duty = .receive deadline →
          deadline ≤ s.now + wait := by
        cases s.duty with
        | receive deadline =>
          refine ⟨deadline, fun _ same => ?_⟩
          cases same
          exact Nat.le_add_left _ _
        | _ => exact ⟨0, fun _ same => by cases same⟩
      have waited : (s.setClock (s.now + wait)).Done := ⟨done.finished, done.unmet⟩
      obtain ⟨s', supervised⟩ := waited.acts rests due
      obtain ⟨done', nearer⟩ := waited.supervise (supervise_some supervised)
      obtain ⟨acts, only, ended⟩ := ih s'.remaining (bound ▸ nearer) done' rfl
      refine ⟨.elapse wait :: .of .supervisor :: acts, ?_, ?_⟩
      · simpa [Act.isSupervision] using only
      · have next : (s.acted (.elapse wait)).acted (.of .supervisor) = s' := by
          simp only [acted, act?, supervised, Option.getD_some]
        rw [after, List.foldl_cons, List.foldl_cons, next]
        exact ended

/-- Scripts have no part in what the supervisor does. -/
theorem along_supervision {α : Type} {observe : Session → Act → List α}
    (blind : ∀ s a, (∀ i wake, a ≠ .of (.script i wake)) → observe s a = []) {acts : List Act}
    (only : ∀ a ∈ acts, a.isSupervision) : s.along observe acts = [] := by
  induction acts generalizing s with
  | nil => rfl
  | cons a rest ih =>
    obtain ⟨first, others⟩ := List.forall_mem_cons.mp only
    rw [along, blind s a, ih others]
    · rfl
    · rintro i wake rfl
      cases first

theorem announced_supervision {acts : List Act} (only : ∀ a ∈ acts, a.isSupervision) :
    s.along announced acts = [] := by
  refine along_supervision (fun s a other => ?_) only
  unfold announced
  split
  · exact absurd rfl (other _ _)
  · rfl

theorem belated_supervision {acts : List Act} (only : ∀ a ∈ acts, a.isSupervision) :
    s.along belated acts = [] := by
  refine along_supervision (fun s a other => ?_) only
  unfold belated
  split
  · exact absurd rfl (other _ _)
  · rfl

/-- The exit code tells the truth. In every session and every interleaving of scripts, feeder and
supervisor, the exit code is 1 if some script has announced a fatal fault, and 0 if none has. And
once every script has come to its end, unless a request that is on its way can still be met, the
supervisor gives this exit code after some acts of its own.

A script that the supervisor stops while it waits has to look at its messages first. Otherwise it
may still come upon a fault, of which the supervisor then takes no note. Where all scripts end by
themselves there is no such script (`belated_of_unstarved`). -/
theorem exit_code_tells_truth {d : Disk} {o : RunOptions} {script : String}
    {arguments : List String} {seed : UInt32} {s : Session}
    (created : Session.create d o script arguments seed = .ok s) (acts : List Act)
    (prompt : s.along belated acts = []) :
    let verdict := if (s.along announced acts).any ScriptEvent.isFatal then 1 else 0
    (∀ code, (s.after acts).exitCode? = some code → code = verdict) ∧
    ((∀ c ∈ (s.after acts).engine.scripts, c.isFinished) →
      (∀ request ∈ (s.after acts).console.requests,
        ∃ f, Source.find (s.after acts).console.disk request.name (s.after acts).base = .error f) →
      ∃ more : List Act, (∀ a ∈ more, a.isSupervision) ∧
        (s.after (acts ++ more)).exitCode? = some verdict) := by
  have deserted := deserted_after created
  have truthful := (create_truthful created).after prompt
  simp only [Bool.false_or] at truthful
  refine ⟨fun code ended => truthful.exitCode (deserted acts) ended, ?_⟩
  intro finished unmet
  have done : (s.after acts).Done := by
    refine ⟨fun c member => ⟨finished c member, ?_⟩, unmet⟩
    obtain ⟨i, found⟩ := List.mem_iff_getElem?.mp member
    exact (truthful.steady i c found).inactive (finished c member)
  obtain ⟨more, only, rests⟩ := done.rests
  rw [← after_append] at rests
  refine ⟨more, only, ?_⟩
  have ended : (s.after (acts ++ more)).exitCode? =
      some (if (s.after (acts ++ more)).hasFailed then 1 else 0) := by
    rw [exitCode?, rests]
  have unheard := truthful.after (belated_supervision only)
  rw [announced_supervision only, List.any_nil, Bool.or_false, ← after_append] at unheard
  rw [ended, unheard.exitCode (deserted (acts ++ more)) ended]

/-- A script that asks for another one, which fails. -/
def downfall : Disk := .ofFiles
  [("m.wsl", Text.Utf8.encode "run bad"), ("bad.wsl", Text.Utf8.encode "goto nowhere")]

/-- The first script ends before the supervisor starts the second one, and this one ends before the
supervisor looks at either. -/
def fallen : List Act :=
  List.replicate 3 (Act.of .supervisor) ++ List.replicate 5 (Act.of (.script 0 .message)) ++
    List.replicate 2 (Act.of .supervisor) ++ List.replicate 5 (Act.of (.script 1 .message))

theorem exit_code_tells_truth_downfall : ∃ s, Session.create downfall {} "m" [] 0 = .ok s ∧
    ∃ more : List Act, (s.after (fallen ++ more)).exitCode? = some 1 ∧
      (s.along announced (fallen ++ more)).any ScriptEvent.isFatal := by
  have facts : (Session.create downfall {} "m" [] 0).toOption.map (fun s =>
      ((s.after fallen).engine.scripts.all Script.isFinished, (s.after fallen).console.requests,
        (s.along starved fallen).isEmpty, (s.along announced fallen).any ScriptEvent.isFatal)) =
      some (true, [], true, true) := by
    decide +kernel
  cases created : Session.create downfall {} "m" [] 0 with
  | error f => rw [created] at facts; cases facts
  | ok s =>
    rw [created] at facts
    obtain ⟨finished, rest⟩ := Prod.mk.inj (Option.some.inj facts)
    obtain ⟨requests, rest⟩ := Prod.mk.inj rest
    obtain ⟨unstarved, fatal⟩ := Prod.mk.inj rest
    have prompt := belated_of_unstarved created (List.isEmpty_iff.mp unstarved)
    have unmet : ∀ request ∈ (s.after fallen).console.requests, ∃ f, Source.find
        (s.after fallen).console.disk request.name (s.after fallen).base = .error f := by
      rw [requests]
      nofun
    obtain ⟨more, only, ended⟩ :=
      (exit_code_tells_truth created fallen prompt).2 (List.all_eq_true.mp finished) unmet
    rw [fatal] at ended
    have prompt' : s.along belated (fallen ++ more) = [] := by
      rw [along_append, prompt, belated_supervision only, List.append_nil]
    have code := (exit_code_tells_truth created (fallen ++ more) prompt').1 1 ended
    refine ⟨s, rfl, more, ended, ?_⟩
    split at code
    · assumption
    · cases code

end Session

end Questline
