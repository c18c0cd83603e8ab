import Questline.Proofs.Announcements
import Questline.Proofs.Requests
import Questline.Proofs.Stopping

/-! The exit code of a session. The supervisor sees whether a script is active before it takes note
of what the script has announced, and lets go of it only if it was not. A script that has stopped
announces nothing but its end, so no fatal fault escapes the supervisor. (One that is stopped while
it waits can do so only if it looks at its messages first; scripts that end by themselves are never
stopped then.) -/
namespace Questline

variable {σ : Type} {wake : Wake}

/-! ### Scripts that have stopped -/

/-- What a supervisor can rely on: a script that has stopped is on its way to its end, and one that
is at its end has stopped. -/
structure Script.Steady (c : Script) : Prop where
  attentive : c.Attentive
  told : c.Told
  begun : c.state ≠ .created
  unstopped : c.phase = .fresh → c.state ≠ .stopped
  past : c.isPast → c.state = .stopped

namespace Script

theorem create_steady (config : Config) (name : String) (program : Program)
    (arguments : List String) : (Script.create config name program arguments).Steady where
  attentive := .of_free rfl fun told => by cases told
  told _ waits := by cases waits
  begun := nofun
  unstopped _ := nofun
  past ended := by cases ended

theorem Steady.leaving {c : Script} (steady : c.Steady) (inactive : c.isActive = false) :
    c.Leaving := by
  have stopped : c.state = .stopped := by
    have begun := steady.begun
    cases state : c.state <;> simp_all [isActive]
  exact ⟨stopped, fun fresh => steady.unstopped fresh stopped,
    fun w waits => steady.told w waits stopped⟩

theorem Steady.inactive {c : Script} (steady : c.Steady) (finished : c.isFinished) :
    c.isActive = false := by
  simp [isActive, steady.past (isPast_of_isFinished finished)]

theorem Steady.stop {c : Script} (steady : c.Steady) (begun : c.phase ≠ .fresh) :
    c.stop.Steady := by
  have handled : c.Handled c.stop := .stop
  have stopped : c.stop.state = .stopped := by
    unfold Script.stop
    split
    · next already => exact beq_iff_eq.mp already
    · rfl
  have phase : c.stop.phase = c.phase := by
    unfold Script.stop
    split <;> rfl
  constructor
  · exact handled.attentive steady.attentive
  · exact handled.told steady.told
  · rw [stopped]; nofun
  · rw [phase]; exact fun fresh => absurd fresh begun
  · exact fun _ => stopped

theorem Steady.forget {c : Script} (steady : c.Steady) : c.forget.Steady :=
  ⟨⟨steady.attentive.unasked, steady.attentive.placed, steady.attentive.obedient⟩, steady.told,
    steady.begun, steady.unstopped, steady.past⟩

def heard (c : Script) : Script := { c with events := [] }

theorem Steady.heard {c : Script} (steady : c.Steady) : c.heard.Steady :=
  ⟨⟨steady.attentive.unasked, steady.attentive.placed, steady.attentive.obedient⟩, steady.told,
    steady.begun, steady.unstopped, steady.past⟩

theorem Leaving.heard {c : Script} (leaving : c.Leaving) : c.heard.Leaving :=
  ⟨leaving.stopped, leaving.begun, leaving.told⟩

end Script

namespace Run

theorem place_of_underway {q : Run σ} (unfresh : q.script.phase ≠ .fresh)
    (underway : q.script.isPast = false) :
    q.script.phase ≠ .fresh ∧ (q.script.isPast → q.script.state = .stopped) := by
  simp [unfresh, underway]

theorem conclude_past (result : Run σ × Outcome) :
    (conclude result).script.phase ≠ .fresh ∧
      ((conclude result).script.isPast → (conclude result).script.state = .stopped) := by
  obtain ⟨q, outcome⟩ := result
  cases outcome with
  | fault f =>
    simp only [conclude, handleFault]
    split
    · exact place_of_underway Phase.noConfusion rfl
    · exact place_of_underway Phase.noConfusion rfl
  | crashed => exact ⟨Phase.noConfusion, fun _ => rfl⟩
  | _ => exact place_of_underway Phase.noConfusion rfl

variable [Client σ]

theorem step_place {table : CommandTable} {r r' : Run σ} (stepped : r.step? table wake = some r')
    (past : r.script.isPast → r.script.state = .stopped) :
    r'.script.phase ≠ .fresh ∧ (r'.script.isPast → r'.script.state = .stopped) := by
  rcases step_cases stepped with turn | ⟨q, line, turn, rfl⟩
  · cases turn_takes turn with
    | shutDown => exact ⟨Phase.noConfusion, fun _ => rfl⟩
    | sayGoodbye stopped =>
      exact ⟨Phase.noConfusion, fun _ => past (by simp only [Script.isPast, stopped])⟩
    | meet => exact conclude_past _
    | stay busy _ phase =>
      rw [← phase] at busy
      constructor
      · intro fresh
        rw [fresh] at busy
        cases busy
      · intro ended
        rw [Script.isPast_of_busy busy] at ended
        cases ended
    | comeUp _ _ _ _ comes => cases comes <;> exact place_of_underway Phase.noConfusion rfl
    | passOver waits => simp [Script.isPast, withStream, waits]
    | _ => exact place_of_underway Phase.noConfusion rfl
  · exact conclude_past _

theorem step_steady {r r' : Run σ} (stepped : r.step? .standard wake = some r')
    (steady : r.script.Steady) : r'.script.Steady := by
  obtain ⟨begun, past⟩ := step_place stepped steady.past
  constructor
  · exact step_attentive stepped steady.attentive
  · exact step_told CommandTable.standard_stopsAtOnce stepped steady.attentive steady.told
  · rcases (step_advances stepped).state with same | stopped
    · rw [same]
      exact steady.begun
    · rw [stopped]
      nofun
  · exact fun fresh => absurd fresh begun
  · exact past

end Run

/-- Something has stopped a script while it waits. -/
def Script.isCutShort (c : Script) : Bool := c.isWaiting && !c.isActive

/-- How a script goes on while the supervisor looks elsewhere. What it announces is added to what it
has announced before, and if it was on its way to its end no fatal fault is among it. -/
structure Script.Goes (c c' : Script) (news : List ScriptEvent) : Prop where
  steady : c.Steady → c'.Steady
  leaving : c.Leaving → c'.Leaving ∧ news.any ScriptEvent.isFatal = false
  events : c'.events = c.events ++ news

theorem Script.Goes.refl (c : Script) : c.Goes c [] :=
  ⟨id, fun leaving => ⟨leaving, rfl⟩, (List.append_nil _).symm⟩

theorem Script.Goes.forget (c : Script) : c.Goes c.forget [] where
  steady := Steady.forget
  leaving leaving := ⟨⟨leaving.stopped, leaving.begun, leaving.told⟩, rfl⟩
  events := (List.append_nil _).symm

theorem Script.Goes.stop {c : Script} (begun : c.phase ≠ .fresh) : c.Goes c.stop [] where
  steady steady := steady.stop begun
  leaving leaving := by simp [Script.stop, leaving.stopped, leaving]
  events := by
    unfold Script.stop
    split <;> exact (List.append_nil _).symm

theorem Run.step_goes [Client σ] {r r' : Run σ} (stepped : r.step? .standard wake = some r')
    (prompt : r.script.isCutShort → wake = .message) :
    ∃ news, r.script.Goes r'.script.forget news := by
  obtain ⟨news, events⟩ := (step_advances stepped).events
  refine ⟨news, fun steady => (step_steady stepped steady).forget, fun leaving => ?_, events.symm⟩
  -- What a script does that need not be woken, it does as well if it is to look at its messages.
  have looks : r.step? .standard .message = some r' := by
    cases waits : r.script.isWaiting with
    | true =>
      rw [prompt (by rw [Script.isCutShort, waits, leaving.isActive]; rfl)] at stepped
      exact stepped
    | false => exact (congrArg _ (turn_of_not_waiting waits).symm).trans stepped
  have departs := step_departs leaving looks
  refine ⟨((Script.Goes.forget _).leaving departs.leaving).1, ?_⟩
  rw [(departs.quiet rfl).2, List.append_cancel_left_eq] at events
  rw [events]
  split <;> rfl

namespace Session

/-! ### What the supervisor knows -/

def eventsAt (s : Session) (index : Nat) : List ScriptEvent :=
  ((s.engine.scripts[index]?).map Script.events).getD []

def announced (s : Session) (a : Act) : List ScriptEvent :=
  match a with
  | .of (.script index _) => ((s.acted a).eventsAt index).drop (s.eventsAt index).length
  | _ => []

/-- Which script an act wakes by anything else than a message, although it has been stopped while it
waits. -/
def belated (s : Session) (a : Act) : List Nat :=
  match a with
  | .of (.script index wake) =>
    if (s.engine.scripts[index]?).any Script.isCutShort && wake != .message then [index] else []
  | _ => []

theorem stepScript_goes {s s' : Session} {index : Nat} (standard : s.engine.table = .standard)
    (stepped : s.stepScript? index wake = some s')
    (prompt : s.belated (.of (.script index wake)) = []) (i : Nat) :
    Option.Rel (fun c c' => Script.Goes c c'
        (if i = index then (s'.eventsAt index).drop (s.eventsAt index).length else []))
      s.engine.scripts[i]? s'.engine.scripts[i]? := by
  obtain ⟨c, r, found, step, _, _, _, _, scripts⟩ := stepScript_some stepped
  rw [standard] at step
  have heeds : c.isCutShort → wake = .message := by
    intro cut
    simpa [belated, found, cut] using prompt
  obtain ⟨news, goes⟩ := Run.step_goes step heeds
  obtain ⟨within, _⟩ := List.getElem?_eq_some_iff.mp found
  by_cases own : i = index
  · subst own
    have now : s'.engine.scripts[i]? = some r.script.forget := by
      rw [scripts, List.getElem?_map, List.getElem?_set_self within]
      rfl
    have same : (s'.eventsAt i).drop (s.eventsAt i).length = news := by
      simp only [eventsAt, now, found, Option.map_some, Option.getD_some, goes.events,
        List.drop_left]
    rw [if_pos rfl, same, found, now]
    exact .some goes
  · rw [if_neg own, scripts, List.getElem?_map, List.getElem?_set_ne (Ne.symm own)]
    cases s.engine.scripts[i]? with
    | none => exact .none
    | some c => exact .some (.forget c)

/-- A script has announced a fatal fault of which the supervisor has not taken note yet. -/
def Rumour (s : Session) : Prop :=
  ∃ (i : Nat) (c : Script), s.engine.scripts[i]? = some c ∧ c.events.any ScriptEvent.isFatal

/-- What holds of a session in which a fatal fault has been announced so far, or none has. -/
structure Truthful (s : Session) (failed : Bool) : Prop where
  table : s.engine.table = .standard
  steady (i : Nat) (c : Script) : s.engine.scripts[i]? = some c → c.Steady
  /-- Who was seen to be inactive is on its way to its end. -/
  seen (i : Nat) (c : Script) : s.duty = .listen i false → s.engine.scripts[i]? = some c → c.Leaving
  /-- Who is let go of has nothing left to say. -/
  heard (i : Nat) (c : Script) : s.duty = .part i → s.engine.scripts[i]? = some c →
    c.Leaving ∧ c.events.any ScriptEvent.isFatal = false
  verdict : failed ↔ s.hasFailed ∨ s.Rumour

namespace Truthful

variable {s s' : Session} {failed : Bool}

theorem aside (truthful : s.Truthful failed) (aside : Aside s s') : s'.Truthful failed := by
  obtain ⟨table, steady, seen, heard, verdict⟩ := truthful
  constructor
  · exact aside.table.trans table
  · rw [aside.scripts]; exact steady
  · rw [aside.scripts, aside.duty]; exact seen
  · rw [aside.scripts, aside.duty]; exact heard
  · rw [Rumour, aside.hasFailed, aside.scripts]; exact verdict

theorem goes (truthful : s.Truthful failed) (new : Nat → List ScriptEvent)
    (goes : ∀ i : Nat, Option.Rel (fun c c' => Script.Goes c c' (new i))
      s.engine.scripts[i]? s'.engine.scripts[i]?)
    (table : s'.engine.table = s.engine.table) (hasFailed : s'.hasFailed = s.hasFailed)
    (duty : s'.duty = s.duty ∨ s'.duty = .look 0) {failed' : Bool}
    (known : failed' ↔ failed ∨ ∃ i : Nat, (s.engine.scripts[i]?).isSome ∧
      (new i).any ScriptEvent.isFatal) : s'.Truthful failed' := by
  have before : ∀ (i : Nat) c', s'.engine.scripts[i]? = some c' →
      ∃ c, s.engine.scripts[i]? = some c ∧ c.Goes c' (new i) := by
    intro i c' found
    have related := goes i
    rw [found] at related
    cases was : s.engine.scripts[i]? with
    | none => rw [was] at related; cases related
    | some c => rw [was] at related; cases related with | some went => exact ⟨c, rfl, went⟩
  have later : ∀ (i : Nat) c, s.engine.scripts[i]? = some c →
      ∃ c', s'.engine.scripts[i]? = some c' ∧ c.Goes c' (new i) := by
    intro i c found
    have related := goes i
    rw [found] at related
    cases now : s'.engine.scripts[i]? with
    | none => rw [now] at related; cases related
    | some c' => rw [now] at related; cases related with | some went => exact ⟨c', rfl, went⟩
  constructor
  · exact table.trans truthful.table
  · intro i c' found
    obtain ⟨c, was, went⟩ := before i c' found
    exact went.steady (truthful.steady i c was)
  · intro i c' listens found
    obtain ⟨c, was, went⟩ := before i c' found
    rcases duty with same | elsewhere
    · exact (went.leaving (truthful.seen i c (same.symm.trans listens) was)).1
    · cases elsewhere.symm.trans listens
  · intro i c' parts found
    obtain ⟨c, was, went⟩ := before i c' found
    rcases duty with same | elsewhere
    · obtain ⟨leaving, harmless⟩ := truthful.heard i c (same.symm.trans parts) was
      obtain ⟨leaving', quiet⟩ := went.leaving leaving
      refine ⟨leaving', ?_⟩
      rw [went.events, List.any_append, harmless, quiet]
      rfl
    · cases elsewhere.symm.trans parts
  · rw [known, truthful.verdict, hasFailed, or_assoc]
    apply or_congr_right
    constructor
    · rintro (⟨i, c, was, fatal⟩ | ⟨i, present, fatal⟩)
      · obtain ⟨c', now, went⟩ := later i c was
        exact ⟨i, c', now, by rw [went.events, List.any_append, fatal]; rfl⟩
      · obtain ⟨c, was⟩ := Option.isSome_iff_exists.mp present
        obtain ⟨c', now, went⟩ := later i c was
        exact ⟨i, c', now, by rw [went.events, List.any_append, fatal, Bool.or_true]⟩
    · rintro ⟨i, c', now, fatal⟩
      obtain ⟨c, was, went⟩ := before i c' now
      rw [went.events, List.any_append, Bool.or_eq_true] at fatal
      rcases fatal with old | new
      · exact .inl ⟨i, c, was, old⟩
      · exact .inr ⟨i, by rw [was]; rfl, new⟩

theorem step (truthful : s.Truthful failed) {index : Nat}
    (stepped : s.stepScript? index wake = some s')
    (prompt : s.belated (.of (.script index wake)) = []) :
    s'.Truthful
      (failed || ((s'.eventsAt index).drop (s.eventsAt index).length).any ScriptEvent.isFatal) := by
  obtain ⟨c, r, found, _, _, table, duty, hasFailed, _⟩ := stepScript_some stepped
  apply truthful.goes _ (stepScript_goes truthful.table stepped prompt) table hasFailed (.inl duty)
  rw [Bool.or_eq_true]
  apply or_congr_right
  constructor
  · intro fatal
    exact ⟨index, by rw [found]; rfl, by rw [if_pos rfl]; exact fatal⟩
  · rintro ⟨i, _, fatal⟩
    split at fatal
    · exact fatal
    · cases fatal

theorem of_free (table : s.engine.table = .standard)
    (steady : ∀ (i : Nat) (c : Script), s.engine.scripts[i]? = some c → c.Steady)
    (verdict : failed ↔ s.hasFailed ∨ s.Rumour)
    (free : ∀ i, s.duty ≠ .listen i false ∧ s.duty ≠ .part i) : s.Truthful failed where
  table := table
  steady := steady
  seen i _ listens := absurd listens (free i).1
  heard i _ parts := absurd parts (free i).2
  verdict := verdict

theorem look (truthful : s.Truthful failed) {index : Nat} {c : Script}
    (found : s.engine.scripts[index]? = some c) :
    Truthful { s with duty := .listen index c.isActive } failed := by
  constructor
  · exact truthful.table
  · exact truthful.steady
  · intro i c' listens here
    obtain ⟨rfl, inactive⟩ := Duty.listen.inj listens
    cases found.symm.trans here
    exact (truthful.steady _ c found).leaving inactive
  · intro i c' parts
    cases parts
  · exact truthful.verdict

theorem listen (truthful : s.Truthful failed) {index : Nat} {isActive : Bool}
    (duty : s.duty = .listen index isActive) :
    Truthful { s.listenTo index with
      duty := if isActive then .look (index + 1) else .part index } failed := by
  have own : (s.listenTo index).engine.scripts[index]? =
      (s.engine.scripts[index]?).map Script.heard := by
    simp only [listenTo, List.getElem?_modify, if_true]
    rfl
  have other : ∀ i, index ≠ i →
      (s.listenTo index).engine.scripts[i]? = s.engine.scripts[i]? := by
    intro i different
    simp only [listenTo, List.getElem?_modify, if_neg different]
    exact Option.map_id'
  constructor
  · exact truthful.table
  · intro i c here
    by_cases same : index = i
    · subst same
      obtain ⟨c₀, was, rfl⟩ := Option.map_eq_some_iff.mp (own.symm.trans here)
      exact (truthful.steady _ c₀ was).heard
    · exact truthful.steady i c ((other i same).symm.trans here)
  · intro i c listens
    dsimp only at listens
    split at listens <;> cases listens
  · intro i c parts here
    dsimp only at parts
    split at parts
    · cases parts
    · next inactive =>
      cases parts
      obtain ⟨c₀, was, rfl⟩ := Option.map_eq_some_iff.mp (own.symm.trans here)
      rw [Bool.not_eq_true] at inactive
      subst inactive
      exact ⟨(truthful.seen _ c₀ duty was).heard, rfl⟩
  · rw [truthful.verdict]
    change _ ↔ (s.hasFailed || (s.eventsAt index).any ScriptEvent.isFatal) ∨ _
    rw [Bool.or_eq_true, or_assoc]
    apply or_congr_right
    constructor
    · rintro ⟨i, c, was, fatal⟩
      by_cases same : index = i
      · subst same
        left
        simpa only [eventsAt, was, Option.map_some, Option.getD_some] using fatal
      · exact .inr ⟨i, c, (other i same).trans was, fatal⟩
    · rintro (fatal | ⟨i, c, here, fatal⟩)
      · unfold eventsAt at fatal
        cases was : s.engine.scripts[index]? with
        | none => rw [was] at fatal; cases fatal
        | some c => rw [was] at fatal; exact ⟨index, c, was, fatal⟩
      · by_cases same : index = i
        · subst same
          obtain ⟨c₀, _, rfl⟩ := Option.map_eq_some_iff.mp (own.symm.trans here)
          cases fatal
        · exact ⟨i, c, (other i same).symm.trans here, fatal⟩

theorem part (truthful : s.Truthful failed) {index : Nat} (duty : s.duty = .part index) :
    Truthful { s.letGoOf index with duty := .look index } failed := by
  have scripts : ∀ i : Nat, (s.letGoOf index).engine.scripts[i]? =
      if i < index then s.engine.scripts[i]? else s.engine.scripts[i + 1]? := by
    intro i
    exact List.getElem?_eraseIdx
  have kept : ∀ (i : Nat) c, (s.letGoOf index).engine.scripts[i]? = some c →
      ∃ j : Nat, s.engine.scripts[j]? = some c := by
    intro i c here
    rw [scripts] at here
    split at here
    · exact ⟨i, here⟩
    · exact ⟨i + 1, here⟩
  refine .of_free truthful.table ?_ ?_ fun _ => by simp
  · intro i c here
    obtain ⟨j, was⟩ := kept i c here
    exact truthful.steady j c was
  · rw [truthful.verdict]
    apply or_congr_right
    constructor
    · rintro ⟨i, c, was, fatal⟩
      rcases Nat.lt_trichotomy i index with before | rfl | after
      · exact ⟨i, c, by rw [scripts, if_pos before]; exact was, fatal⟩
      · rw [(truthful.heard i c duty was).2] at fatal
        cases fatal
      · refine ⟨i - 1, c, ?_, fatal⟩
        rw [scripts, if_neg (by omega), Nat.sub_add_cancel (by omega)]
        exact was
    · rintro ⟨i, c, here, fatal⟩
      obtain ⟨j, was⟩ := kept i c here
      exact ⟨j, c, was, fatal⟩

theorem take (truthful : s.Truthful failed) (request : RunRequest) (requests : List RunRequest) :
    Truthful { (s.setConsole { s.console with requests }).start request with duty := .tend }
      failed := by
  obtain ⟨table, _, hasFailed⟩ := start_same (s.setConsole { s.console with requests }) request
  have answers := start_answers (s.setConsole { s.console with requests }) request
  generalize (s.setConsole { s.console with requests }).start request = s' at *
  obtain ⟨more, scripts, steady, silent⟩ : ∃ more : List Script,
      s'.engine.scripts = s.engine.scripts ++ more ∧ (∀ c ∈ more, c.Steady) ∧
        ∀ c ∈ more, c.events = [] := by
    cases answers with
    | started _ scripts =>
      refine ⟨_, scripts, ?_, ?_⟩
      · exact List.forall_mem_singleton.mpr (Script.create_steady _ _ _ _)
      · exact List.forall_mem_singleton.mpr rfl
    | refused _ scripts => exact ⟨[], by rw [List.append_nil]; exact scripts, by simp, by simp⟩
  have origin : ∀ (i : Nat) c, s'.engine.scripts[i]? = some c →
      (∃ j : Nat, s.engine.scripts[j]? = some c) ∨ c ∈ more := by
    intro i c here
    have member := List.mem_of_getElem? here
    rw [scripts, List.mem_append] at member
    exact member.imp_left List.mem_iff_getElem?.mp
  refine .of_free (table.trans truthful.table) ?_ ?_ fun _ => by simp
  · intro i c here
    rcases origin i c here with ⟨j, was⟩ | new
    · exact truthful.steady j c was
    · exact steady c new
  · rw [truthful.verdict]
    dsimp only
    rw [hasFailed]
    apply or_congr_right
    constructor
    · rintro ⟨i, c, was, fatal⟩
      obtain ⟨within, _⟩ := List.getElem?_eq_some_iff.mp was
      refine ⟨i, c, ?_, fatal⟩
      dsimp only
      rw [scripts, List.getElem?_append_left within]
      exact was
    · rintro ⟨i, c, here, fatal⟩
      rcases origin i c here with ⟨j, was⟩ | new
      · exact ⟨j, c, was, fatal⟩
      · rw [silent c new] at fatal
        cases fatal

theorem tend (truthful : s.Truthful failed) :
    Truthful { s.stopStarving with duty := .look 0 } failed := by
  have patient : Truthful { s with duty := .look 0 } failed :=
    .of_free truthful.table truthful.steady truthful.verdict fun _ => by simp
  unfold stopStarving
  split
  · dsimp only
    split
    · have stopped : ∀ i : Nat, Option.Rel (fun c c' => Script.Goes c c' [])
          s.engine.scripts[i]? ((s.engine.scripts.map fun c =>
            if c.isWaitingOpenly then c.stop else c)[i]?) := by
        intro i
        rw [List.getElem?_map]
        cases s.engine.scripts[i]? with
        | none => exact .none
        | some c =>
          refine .some ?_
          dsimp only
          split
          · next waits =>
            apply Script.Goes.stop
            intro fresh
            rw [Script.isWaitingOpenly, fresh] at waits
            cases waits
          · exact .refl c
      apply truthful.goes fun _ => []
      · exact stopped
      · rfl
      · rfl
      · exact .inr rfl
      · simp
    · exact patient.aside ⟨rfl, rfl, rfl, rfl, rfl⟩
  · exact patient.aside ⟨rfl, rfl, rfl, rfl, rfl⟩

theorem supervise (truthful : s.Truthful failed) (supervises : Supervises s s') :
    s'.Truthful failed := by
  cases supervises with
  | look duty found => exact truthful.look found
  | retire | await | lapse =>
    exact .of_free truthful.table truthful.steady truthful.verdict fun _ => by simp
  | listen duty => exact truthful.listen duty
  | part duty => exact truthful.part duty
  | take duty waiting => exact truthful.take _ _
  | tend duty => exact truthful.tend

theorem acted (truthful : s.Truthful failed) (a : Act) (prompt : s.belated a = []) :
    (s.acted a).Truthful (failed || (s.announced a).any ScriptEvent.isFatal) := by
  cases acted_comes s a with
  | aside aside =>
    have silent : s.announced a = [] := by
      unfold announced eventsAt
      split
      · rw [aside.scripts, List.drop_length]
      · rfl
    rw [silent, List.any_nil, Bool.or_false]
    exact truthful.aside aside
  | script stepped => exact truthful.step stepped prompt
  | supervisor supervises =>
    rw [announced, List.any_nil, Bool.or_false]
    · exact truthful.supervise supervises
    · exact nofun

theorem after (truthful : s.Truthful failed) {acts : List Act}
    (prompt : s.along belated acts = []) :
    (s.after acts).Truthful (failed || (s.along announced acts).any ScriptEvent.isFatal) := by
  induction acts generalizing s failed with
  | nil =>
    rw [along, List.any_nil, Bool.or_false]
    exact truthful
  | cons a rest ih =>
    obtain ⟨first, others⟩ := List.append_eq_nil_iff.mp prompt
    rw [along, List.any_append, ← Bool.or_assoc]
    exact ih (truthful.acted a first) others

end Truthful

/-! ### Scripts that end by themselves -/

/-- Those who have been stopped while they wait, by an act of the supervisor. -/
def starved (s : Session) (a : Act) : List Script :=
  match a with
  | .of .supervisor =>
    if s.duty = .tend then s.stopStarving.engine.scripts.filter Script.isCutShort else []
  | _ => []

def Undisturbed (s : Session) : Prop := ∀ c ∈ s.engine.scripts, c.isCutShort = false

variable {s : Session} {failed : Bool}

theorem belated_of_undisturbed (undisturbed : s.Undisturbed) (a : Act) : s.belated a = [] := by
  unfold belated
  split
  · next index wake =>
    cases found : s.engine.scripts[index]? with
    | none => rfl
    | some c =>
      rw [Option.any_some, undisturbed c (List.mem_of_getElem? found)]
      rfl
  · rfl

theorem Undisturbed.supervises {s' : Session} (undisturbed : s.Undisturbed)
    (supervises : Supervises s s') (unstarved : s.starved (.of .supervisor) = []) :
    s'.Undisturbed := by
  cases supervises with
  | look | retire | await | lapse => exact undisturbed
  | listen =>
    intro c member
    obtain ⟨i, here⟩ := List.mem_iff_getElem?.mp member
    simp only [listenTo, List.getElem?_modify] at here
    obtain ⟨c₀, was, rfl⟩ := Option.map_eq_some_iff.mp here
    have before := undisturbed c₀ (List.mem_of_getElem? was)
    split
    · exact before
    · exact before
  | part => exact fun c member => undisturbed c (List.mem_of_mem_eraseIdx member)
  | @take _ request requests =>
    intro c member
    cases start_answers (s.setConsole { s.console with requests }) request with
    | started _ scripts =>
      rw [scripts] at member
      rcases List.mem_append.mp member with old | new
      · exact undisturbed c old
      · rw [List.mem_singleton.mp new]
        rfl
    | refused _ scripts =>
      rw [scripts] at member
      exact undisturbed c member
  | tend duty =>
    rw [starved, if_pos duty, List.filter_eq_nil_iff] at unstarved
    exact fun c member => Bool.eq_false_iff.mpr (unstarved c member)

namespace Truthful

theorem uncut (truthful : s.Truthful failed) {index : Nat} {c : Script} {r : Run Console}
    (found : s.engine.scripts[index]? = some c) (uncut : c.isCutShort = false)
    (stepped : Run.step? s.engine.table wake ⟨c, s.engine.world⟩ = some r) :
    r.script.isCutShort = false := by
  have steady := truthful.steady index c found
  rw [truthful.table] at stepped
  cases waits : r.script.phase with
  | waiting w =>
    cases active : r.script.isActive with
    | true => simp [Script.isCutShort, active]
    | false =>
      have stopped := ((Run.step_steady stepped steady).leaving active).stopped
      obtain ⟨⟨w', waited⟩, before, _⟩ := Run.waited_of_stopped
        CommandTable.standard_stopsAtOnce stepped steady.attentive waits stopped
      dsimp only at waited before
      simp [Script.isCutShort, Script.isWaiting, waited, Script.isActive, before] at uncut
  | _ => simp [Script.isCutShort, Script.isWaiting, waits]

theorem undisturbed (truthful : s.Truthful failed) (undisturbed : s.Undisturbed) {a : Act}
    (unstarved : s.starved a = []) : (s.acted a).Undisturbed := by
  cases acted_comes s a with
  | aside aside =>
    rw [Undisturbed, aside.scripts]
    exact undisturbed
  | script stepped =>
    obtain ⟨c, r, found, step, _, _, _, _, scripts⟩ := stepScript_some stepped
    intro c' member
    rw [scripts] at member
    obtain ⟨c₀, among, rfl⟩ := List.mem_map.mp member
    rcases List.mem_or_eq_of_mem_set among with other | rfl
    · exact undisturbed c₀ other
    · exact truthful.uncut found (undisturbed c (List.mem_of_getElem? found)) step
  | supervisor supervises => exact undisturbed.supervises supervises unstarved

theorem prompt (truthful : s.Truthful failed) (undisturbed : s.Undisturbed) {acts : List Act}
    (unstarved : s.along starved acts = []) : s.along belated acts = [] := by
  induction acts generalizing s failed with
  | nil => rfl
  | cons a rest ih =>
    obtain ⟨first, others⟩ := List.append_eq_nil_iff.mp unstarved
    have prompt := belated_of_undisturbed undisturbed a
    rw [along, prompt, List.nil_append]
    exact ih (truthful.acted a prompt) (truthful.undisturbed undisturbed first) others

end Truthful

theorem create_truthful {d : Disk} {o : RunOptions} {script : String} {arguments : List String}
    {seed : UInt32} (created : Session.create d o script arguments seed = .ok s) :
    s.Truthful false := by
  obtain ⟨table, duty, hasFailed, _, config, name, program, scripts⟩ := create_ok created
  have only : ∀ (i : Nat) c, s.engine.scripts[i]? = some c →
      c = Script.create config name program arguments := by
    intro i c here
    have member := List.mem_of_getElem? here
    rw [scripts] at member
    exact List.mem_singleton.mp member
  refine .of_free table ?_ ?_ fun _ => by simp [duty]
  · intro i c here
    rw [only i c here]
    exact Script.create_steady _ _ _ _
  · refine ⟨nofun, ?_⟩
    rintro (failed | ⟨i, c, here, fatal⟩)
    · rw [hasFailed] at failed
      cases failed
    · rw [only i c here] at fatal
      cases fatal

theorem belated_of_unstarved {d : Disk} {o : RunOptions} {script : String} {arguments : List String}
    {seed : UInt32} (created : Session.create d o script arguments seed = .ok s) {acts : List Act}
    (unstarved : s.along starved acts = []) : s.along belated acts = [] := by
  obtain ⟨_, _, _, _, config, name, program, scripts⟩ := create_ok created
  refine (create_truthful created).prompt ?_ unstarved
  intro c member
  rw [scripts] at member
  rw [List.mem_singleton.mp member]
  rfl

theorem Truthful.exitCode {s : Session} {failed : Bool} (truthful : s.Truthful failed)
    (deserted : s.duty = .rest → s.engine.scripts = []) {code : Nat}
    (ended : s.exitCode? = some code) : code = if failed then 1 else 0 := by
  have rests := duty_of_exitCode (by rw [ended]; rfl)
  have silent : ¬ s.Rumour := by
    rintro ⟨i, c, here, _⟩
    rw [deserted rests] at here
    cases here
  have same : failed = s.hasFailed := by
    have verdict := truthful.verdict
    simp only [silent, or_false] at verdict
    exact Bool.eq_iff_iff.mpr verdict
  rw [exitCode?, rests] at ended
  rw [same]
  exact (Option.some.inj ended).symm

end Session

end Questline
