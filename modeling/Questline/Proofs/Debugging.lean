import Questline.Proofs.Tracing

/-! Debugging only observes: scripts that differ in nothing else take the same turns, one by one,
and so do engines whatever happens to them. -/
namespace Questline

variable {σ : Type}

/-! ### Lines -/

namespace Run

variable {q r : Run σ}

section Lines

variable [Client σ]

theorem grant_agree (alike : q.Alike r) (request : Request) :
    Agree (q.grant request) (r.grant request) := by
  cases request with
  | echo text => exact .ok (alike.note _)
  | trace level text => exact .ok (alike.trace _ _)
  | publish event =>
    obtain ⟨d, l, same⟩ := alike
    exact .ok (.intro d l same)
  | goto label => exact alike.goto label
  | stop => exact .ok alike.stop
  | setSpecial name value => exact .ok (alike.setSpecial _ _)
  | inspect names =>
    obtain ⟨d, l, same⟩ := alike
    exact .ok (.intro d l (deeds_append same _))

theorem grantAll_alike (alike : q.Alike r) (requests : List Request) :
    (q.grantAll requests).1.Alike (r.grantAll requests).1 ∧
      (r.grantAll requests).2 = (q.grantAll requests).2 := by
  induction requests generalizing q r with
  | nil => exact ⟨alike, rfl⟩
  | cons request rest ih =>
    have agree := grant_agree alike request
    unfold grantAll
    generalize q.grant request = a at agree ⊢
    generalize r.grant request = b at agree ⊢
    cases agree with
    | ok granted => exact ih granted
    | error f => exact ⟨alike, rfl⟩

theorem follow_alike (alike : q.Alike r) (shown : String) (arguments : List Char)
    (action : Option Action) :
    (q.follow shown arguments action).1.Alike (r.follow shown arguments action).1 ∧
      (r.follow shown arguments action).2 = (q.follow shown arguments action).2 := by
  unfold follow
  split
  · exact ⟨alike, rfl⟩
  · obtain ⟨d, l, same⟩ := alike
    exact ⟨.intro d l same, rfl⟩
  · refine ⟨alike, ?_⟩
    cases alike
    rfl
  · exact ⟨alike, rfl⟩
  · next handler =>
    obtain ⟨granted, fault⟩ := grantAll_alike alike (handler (String.ofList arguments)).1
    dsimp only
    generalize q.grantAll _ = a at granted fault ⊢
    generalize r.grantAll _ = b at granted fault ⊢
    obtain ⟨q', _ | f⟩ := a <;> obtain ⟨r', _⟩ := b <;> cases fault
    · exact ⟨granted, rfl⟩
    · exact ⟨granted, rfl⟩

theorem way_alike (table : CommandTable) (alike : q.Alike r) (line : List Char) :
    (q.way table line).1.Alike (r.way table line).1 ∧
      (r.way table line).2 = (q.way table line).2 := by
  unfold way
  split
  · exact ⟨alike, rfl⟩
  · exact follow_alike (alike.trace _ _) _ _ _

theorem dispatch_alike (table : CommandTable) (alike : q.Alike r) (line : List Char) :
    (q.dispatch table line).1.Alike (r.dispatch table line).1 ∧
      (r.dispatch table line).2 = (q.dispatch table line).2 := by
  fun_induction dispatch table q line generalizing r with
  | case1 q line q' destination led =>
    obtain ⟨on, same⟩ := way_alike table alike line
    rw [led] at on same
    rw [dispatch, show r.way table line = ((r.way table line).1, .there destination) from
      Prod.ext rfl same]
    exact ⟨on, rfl⟩
  | case2 q line q' rest led ih =>
    obtain ⟨on, same⟩ := way_alike table alike line
    rw [led] at on same
    have further : r.dispatch table line = (r.way table line).1.dispatch table rest := by
      rw [dispatch, show r.way table line = ((r.way table line).1, .onward rest) from
        Prod.ext rfl same]
    rw [further]
    exact ih on

theorem execute_same (table : CommandTable) (alike : q.Alike r) (line : List Char) :
    Commands.Same (q.execute table line) (r.execute table line) := by
  obtain ⟨led, same⟩ := dispatch_alike table alike line
  unfold execute
  generalize q.dispatch table line = a at led same ⊢
  generalize r.dispatch table line = b at led same ⊢
  obtain ⟨q', destination⟩ := a
  obtain ⟨r', _⟩ := b
  cases same
  cases destination with
  | command command arguments => exact Commands.perform_same arguments led command
  | ended outcome => exact Commands.same led outcome

end Lines

/-! ### Steps -/

namespace Alike

theorem setPhase (alike : Alike q r) (phase : Phase) : Alike (q.setPhase phase) (r.setPhase phase) := by
  obtain ⟨d, l, same⟩ := alike
  exact .intro d l same

theorem moveOn (alike : Alike q r) : Alike q.moveOn r.moveOn := by
  obtain ⟨d, l, same⟩ := alike
  exact .intro d l same

theorem report (alike : Alike q r) (f : Fault) : Alike (q.report f) (r.report f) := by
  have shown : ∃ text, q.report f = (q.note (.echo text)).emit (.fault (q.blamed f)) ∧
      r.report f = (r.note (.echo text)).emit (.fault (q.blamed f)) := by
    cases alike
    exact ⟨_, rfl, rfl⟩
  obtain ⟨text, left, right⟩ := shown
  rw [left, right]
  exact (alike.note _).emit _

theorem handleFault (alike : Alike q r) (f : Fault) : Alike (q.handleFault f) (r.handleFault f) := by
  unfold Run.handleFault
  exact ite_related (fun _ => (alike.report f).setPhase _) fun _ => (alike.report f).moveOn

theorem crash (alike : Alike q r) : Alike q.crash r.crash := by
  have name : r.script.name = q.script.name := by cases alike; rfl
  unfold Run.crash
  rw [name]
  exact (((alike.clearMatches.stop).emit _).emit _).setPhase _

theorem conclude {a b : Run σ × Outcome} (same : Commands.Same a b) :
    Alike (conclude a) (conclude b) := by
  obtain ⟨q, outcome⟩ := a
  obtain ⟨r, _⟩ := b
  obtain ⟨alike, same⟩ := same
  cases same
  cases outcome with
  | done | interrupted => exact alike.moveOn
  | fault f => exact alike.handleFault f
  | waiting w => exact alike.setPhase _
  | crashed => exact alike.crash

theorem reportAll (alike : Alike q r) (faults : List Fault) :
    Alike (faults.foldl Run.report q) (faults.foldl Run.report r) := by
  induction faults generalizing q r with
  | nil => exact alike
  | cons f rest ih => exact ih (alike.report f)

theorem launch (alike : Alike q r) : Alike q.launch r.launch := by
  have told := (alike.emit .started).reportAll q.script.program.warnings
  have program : r.script.program = q.script.program := by cases alike; rfl
  unfold Run.launch
  dsimp only
  rw [show (r.emit .started).script.program = q.script.program from program,
    show (q.emit .started).script.program = q.script.program from rfl]
  generalize List.foldl Run.report (q.emit .started) _ = q' at told ⊢
  generalize List.foldl Run.report (r.emit .started) _ = r' at told ⊢
  obtain ⟨d, l, same⟩ := told
  exact .intro d l same

end Alike

inductive Turn.Alike : Turn σ → Turn σ → Prop
  | ended {q r : Run σ} (alike : q.Alike r) : Alike (.ended q) (.ended r)
  | execute {q r : Run σ} (alike : q.Alike r) (line : String) :
    Alike (.execute q line) (.execute r line)

theorem meet_alike (alike : q.Alike r) (w : Wait) (event : GameEvent) :
    Option.Rel Commands.Same (q.meet w event) (r.meet w event) := by
  have released := alike.release w
  unfold meet
  split
  · next matcher binds text =>
    cases matcher.find? text with
    | none => exact .none
    | some groups =>
      refine .some (Commands.same ?_ _)
      exact ite_related (fun _ => released.bindGroups groups) fun _ => released
  · split
    · exact .some (Commands.same released _)
    · exact .none
  · next pending _ text =>
    cases firstHit? pending text with
    | none => exact .none
    | some hit =>
      have bound := released.bindHit hit.groups
      exact .some (Commands.attempt_same bound (bound.goto hit.label))
  · exact .none

variable [Client σ]

theorem Turn.Alike.complete (table : CommandTable) {a b : Turn σ} (alike : a.Alike b) :
    (a.complete table).Alike (b.complete table) := by
  cases alike with
  | ended alike => exact alike
  | execute alike line => exact .conclude (execute_same table alike _)

theorem arrive_alike (alike : q.Alike r) : q.arrive.Alike r.arrive := by
  obtain ⟨d, l, same⟩ := alike
  unfold arrive
  refine ite_related (fun _ => .ended (.intro d l same)) fun _ => ?_
  refine ite_related (fun _ => .ended (.intro d l same)) fun _ => ?_
  dsimp only [tuned, Script.tuned, Script.command?]
  split
  · exact .execute (.intro d l same) _
  · exact .ended (.intro d l same)

theorem throttle_alike (alike : q.Alike r) : q.throttle.Alike r.throttle := by
  have arrived := arrive_alike alike
  obtain ⟨d, l, same⟩ := alike
  unfold throttle
  refine ite_related (fun _ => .ended (.intro d l same)) fun _ => ?_
  exact ite_related (fun _ => .ended (.intro d l same)) fun _ => arrived

theorem approach_alike (alike : q.Alike r) : q.approach.Alike r.approach := by
  have command : r.script.command? = q.script.command? := by cases alike; rfl
  unfold approach
  rw [command]
  split
  · exact ite_related (fun _ => arrive_alike alike) fun _ => throttle_alike alike
  · exact .ended alike.moveOn

theorem takeUp_alike (alike : q.Alike r) (index : Nat) : (q.takeUp index).Alike (r.takeUp index) := by
  obtain ⟨d, l, same⟩ := alike
  unfold takeUp
  dsimp only [tuned, Script.tuned]
  split
  · exact .ended (.intro d l same)
  · exact approach_alike (.intro d l same)

theorem enter_alike (alike : q.Alike r) : q.enter.Alike r.enter := by
  have cursor : r.script.cursor = q.script.cursor := by cases alike; rfl
  unfold enter
  rw [cursor]
  split
  · exact .ended (alike.setPhase _)
  · exact takeUp_alike alike _

theorem proceed_alike (alike : q.Alike r) : q.proceed.Alike r.proceed := by
  obtain ⟨d, l, same⟩ := alike
  unfold proceed
  dsimp only [tuned, Script.tuned, Script.isActive]
  generalize poll q.script.requestedLabel q.script.controls = polled
  obtain ⟨stopped, label, controls⟩ := polled
  refine ite_related (fun _ => .ended (.intro d l same)) fun _ => ?_
  refine ite_related (fun _ => .ended (.intro d l same)) fun _ => ?_
  cases label with
  | none => exact enter_alike (.intro d l same)
  | some label =>
    dsimp only
    split
    · exact enter_alike (.intro d l same)
    · refine .ended (.setPhase (.report ?_ _) _)
      exact .intro d l same

theorem heed_alike (alike : q.Alike r) (w : Wait) (message : Control) (rest : List Control) :
    (q.heed w message rest).Alike (r.heed w message rest) := by
  unfold heed
  cases message with
  | stop =>
    refine .ended (.moveOn (.release ?_ w))
    obtain ⟨d, l, same⟩ := alike
    exact .intro d l same
  | goto label =>
    refine .ended (.moveOn (.release ?_ w))
    obtain ⟨d, l, same⟩ := alike
    exact .intro d l same
  | resume =>
    obtain ⟨d, l, same⟩ := alike
    dsimp only
    split
    · exact approach_alike (.intro d l same)
    · exact .ended (.intro d l same)

theorem expire_alike (alike : q.Alike r) (w : Wait) : (q.expire w).Alike (r.expire w) := by
  unfold expire
  split
  · exact throttle_alike alike
  · exact arrive_alike alike
  · exact .ended ((alike.release _).trace _ _).moveOn
  · exact .ended (alike.release _).moveOn

theorem wake_alike (alike : q.Alike r) (w : Wait) (wake : Wake) :
    Option.Rel Turn.Alike (q.wake? w wake) (r.wake? w wake) := by
  cases wake with
  | message =>
    have controls : r.script.controls = q.script.controls := by cases alike; rfl
    simp only [wake?, controls]
    generalize q.script.controls = queue
    cases queue with
    | nil => exact .none
    | cons message rest => exact .some (heed_alike alike _ _ _)
  | event =>
    simp only [wake?, alike.world]
    generalize w.subscription?.bind q.world.stream.take? = taken
    cases taken with
    | none => exact .none
    | some taken =>
      obtain ⟨event, stream⟩ := taken
      have heard : Alike (q.withStream stream) (r.withStream stream) := by
        obtain ⟨d, l, same⟩ := alike
        exact .intro d l same
      have met := meet_alike heard w event
      unfold withStream at heard met
      rw [alike.world] at heard met
      refine .some (.ended ?_)
      generalize Run.meet _ w event = a at met ⊢
      generalize Run.meet _ w event = b at met ⊢
      cases met with
      | none => exact heard
      | some same => exact .conclude same
  | deadline =>
    have due : r.isDue w.deadline? = q.isDue w.deadline? := by cases alike; rfl
    simp only [wake?, due]
    split
    · exact .some (expire_alike alike w)
    · exact .none

theorem turn_alike (alike : q.Alike r) (wake : Wake) :
    Option.Rel Turn.Alike (q.turn? wake) (r.turn? wake) := by
  have phase : r.script.phase = q.script.phase := by cases alike; rfl
  unfold turn?
  rw [phase]
  split
  · exact .some (.ended alike.launch)
  · exact .some (proceed_alike alike)
  · exact wake_alike alike _ wake
  · exact .some (.ended (alike.clearMatches.stop.setPhase _))
  · exact .some (.ended ((alike.emit _).setPhase _))
  · exact .none

theorem step_alike (table : CommandTable) (wake : Wake) (alike : q.Alike r) :
    Option.Rel Alike (q.step? table wake) (r.step? table wake) := by
  have turn := turn_alike alike wake
  unfold step?
  generalize q.turn? wake = a at turn ⊢
  generalize r.turn? wake = b at turn ⊢
  cases turn with
  | none => exact .none
  | some same => exact .some (same.complete table)

end Run

/-! ### Engines -/

namespace Script

variable {s t : Script}

theorem Alike.stop (alike : s.Alike t) : s.stop.Alike t.stop := by
  obtain ⟨d, l, same⟩ := alike
  unfold Script.stop
  exact ite_related (fun _ => .intro d l same) fun _ => .intro d l same

theorem Alike.suspend (alike : s.Alike t) : s.suspend.2.Alike t.suspend.2 := by
  obtain ⟨d, l, same⟩ := alike
  unfold Script.suspend
  rw [apply_ite Prod.snd, apply_ite Prod.snd]
  exact ite_related (fun _ => .intro d l same) fun _ => .intro d l same

theorem Alike.resume (alike : s.Alike t) : s.resume.2.Alike t.resume.2 := by
  obtain ⟨d, l, same⟩ := alike
  unfold Script.resume
  rw [apply_ite Prod.snd, apply_ite Prod.snd]
  exact ite_related (fun _ => .intro d l same) fun _ => .intro d l same

theorem Alike.requestGoto (alike : s.Alike t) (label : String) :
    (s.requestGoto label).Alike (t.requestGoto label) := by
  obtain ⟨d, l, same⟩ := alike
  unfold Script.requestGoto
  exact ite_related (fun _ => .intro d l same) fun _ => .intro d l same

end Script

namespace Engine

/-- Two engines in the same world that differ at most in how much their scripts say for
debugging. -/
structure Alike (e f : Engine σ) : Prop where
  table : f.table = e.table
  config : ∃ debug debugLevel, f.config = { e.config with debug, debugLevel }
  world : f.world = e.world
  scripts (i : Nat) : Option.Rel Script.Alike e.scripts[i]? f.scripts[i]?

variable {e f : Engine σ}

theorem Alike.address (alike : e.Alike f) (index : Nat) {change : Script → Script}
    (careful : ∀ s t, s.Alike t → (change s).Alike (change t)) :
    (e.address index change).Alike (f.address index change) := by
  refine ⟨alike.table, alike.config, alike.world, fun i => ?_⟩
  have same := alike.scripts i
  simp only [Engine.address, List.getElem?_modify]
  generalize e.scripts[i]? = a at same ⊢
  generalize f.scripts[i]? = b at same ⊢
  cases same with
  | none => exact .none
  | some same => exact .some (ite_related (fun _ => careful _ _ same) fun _ => same)

theorem Alike.length_scripts (alike : e.Alike f) : f.scripts.length = e.scripts.length := by
  have beyond (i : Nat) : e.scripts.length ≤ i ↔ f.scripts.length ≤ i := by
    have same := alike.scripts i
    rw [← List.getElem?_eq_none_iff, ← List.getElem?_eq_none_iff]
    generalize e.scripts[i]? = a at same ⊢
    generalize f.scripts[i]? = b at same ⊢
    cases same <;> simp
  have := beyond e.scripts.length
  have := beyond f.scripts.length
  omega

theorem Alike.start (alike : e.Alike f) (name : String) (program : Program)
    (arguments : List String) :
    (e.start name program arguments).Alike (f.start name program arguments) := by
  obtain ⟨debug, debugLevel, config⟩ := alike.config
  refine ⟨alike.table, alike.config, ?_, fun i => ?_⟩
  · simp only [Engine.start, alike.world]
  · simp only [Engine.start, List.getElem?_append, alike.length_scripts, config]
    refine ite_related (fun _ => alike.scripts i) fun _ => ?_
    cases i - e.scripts.length with
    | zero => exact .some (.intro debug debugLevel rfl)
    | succ _ => exact .none

theorem isSome_of_rel {a b : Option (Engine σ)} (same : Option.Rel Alike a b) :
    b.isSome = a.isSome := by
  cases same <;> rfl

variable [Client σ]

theorem Alike.stepAt (alike : e.Alike f) (index : Nat) (wake : Wake) :
    Option.Rel Alike (e.stepAt? index wake) (f.stepAt? index wake) := by
  have here := alike.scripts index
  simp only [stepAt?, Option.bind_eq_bind, alike.table, alike.world]
  generalize e.scripts[index]? = a at here ⊢
  generalize f.scripts[index]? = b at here ⊢
  cases here with
  | none => exact .none
  | @some s t same =>
    have stepped := Run.step_alike e.table wake (.of_script same e.world)
    simp only [Option.bind_some]
    generalize Run.step? e.table wake ⟨s, e.world⟩ = a at stepped ⊢
    generalize Run.step? e.table wake ⟨t, e.world⟩ = b at stepped ⊢
    cases stepped with
    | none => exact .none
    | some now =>
      refine .some ⟨rfl, alike.config, now.world, fun i => ?_⟩
      simp only [List.getElem?_set, alike.length_scripts]
      refine ite_related (fun _ => ?_) fun _ => alike.scripts i
      exact ite_related (fun _ => .some now.script) fun _ => .none

theorem Alike.moved (alike : e.Alike f) (m : Move σ) : (e.moved m).Alike (f.moved m) := by
  have inWorld (w : World σ) : Alike { e with world := w } { f with world := w } :=
    ⟨alike.table, alike.config, rfl, alike.scripts⟩
  cases m with
  | step index wake =>
    have stepped := alike.stepAt index wake
    simp only [Engine.moved]
    generalize e.stepAt? index wake = a at stepped ⊢
    generalize f.stepAt? index wake = b at stepped ⊢
    cases stepped with
    | none => exact alike
    | some now => exact now
  | stop index => exact alike.address index fun _ _ same => same.stop
  | suspend index => exact alike.address index fun _ _ same => same.suspend
  | resume index => exact alike.address index fun _ _ same => same.resume
  | goto index label => exact alike.address index fun _ _ same => same.requestGoto label
  | publish _ | elapse _ | client _ | globals _ =>
    simp only [Engine.moved, publish, setClock, alike.world]
    exact inWorld _
  | start name source arguments => exact alike.start name _ arguments

theorem Alike.after (alike : e.Alike f) (moves : List (Move σ)) :
    (e.after moves).Alike (f.after moves) := by
  induction moves generalizing e f with
  | nil => exact alike
  | cons m rest ih => exact ih (alike.moved m)

/-- Debugging only observes. Whatever commands there are, whatever scripts are started with whatever
arguments, and whatever happens to them: with other settings for debugging the world is the same at
any time, each script has the same state and has done the same, messages for debugging apart, and
the same scripts can take a step in the same ways. -/
theorem debugging_only_observes (table : CommandTable) (config : Config) (world : World σ)
    (debug : Bool) (debugLevel : Nat) (moves : List (Move σ)) :
    let plain := Engine.after { table, config, world } moves
    let chatty := Engine.after { table, config := { config with debug, debugLevel }, world } moves
    chatty.world = plain.world ∧
      ∀ i, Option.Rel Script.Alike plain.scripts[i]? chatty.scripts[i]? ∧
        ∀ wake, (chatty.stepAt? i wake).isSome = (plain.stepAt? i wake).isSome := by
  have created : Alike ({ table, config, world } : Engine σ)
      { table, config := { config with debug, debugLevel }, world } :=
    ⟨rfl, ⟨debug, debugLevel, rfl⟩, rfl, fun _ => .none⟩
  have alike := created.after moves
  exact ⟨alike.world, fun i => ⟨alike.scripts i, fun wake => isSome_of_rel (alike.stepAt i wake)⟩⟩

end Engine

end Questline
