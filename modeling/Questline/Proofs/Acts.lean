import Questline.Proofs.Moves
import Questline.Session.Schedule
import Questline.Session.Setup

/-! Everything that can happen in a session, one act at a time. Scripts, feeder and supervisor act
whenever they can and in any order, lines come in, and time passes; every interleaving is a list of
acts. -/
namespace Questline

/-- A script whose deeds have been written down. -/
def Script.forget (c : Script) : Script := { c with log := [] }

namespace Session

inductive Act where
  | of (actor : Actor)
  | line (text : String)
  | endInput
  | elapse (milliseconds : Nat)

def acted (s : Session) : Act → Session
  | .of actor => (s.act? actor).getD s
  | .line text => s.addLine text
  | .endInput => s.endInput
  | .elapse milliseconds => s.setClock (s.now + milliseconds)

def after (s : Session) (acts : List Act) : Session := acts.foldl acted s

def along {α : Type} (observe : Session → Act → List α) (s : Session) : List Act → List α
  | [] => []
  | a :: rest => observe s a ++ along observe (s.acted a) rest

theorem after_append (s : Session) (acts more : List Act) :
    s.after (acts ++ more) = (s.after acts).after more := List.foldl_append

theorem along_append {α : Type} (observe : Session → Act → List α) (s : Session)
    (acts more : List Act) :
    s.along observe (acts ++ more) = s.along observe acts ++ (s.after acts).along observe more := by
  induction acts generalizing s with
  | nil => rfl
  | cons a rest ih => simp only [List.cons_append, along, ih, List.append_assoc]; rfl

/-- What holds of a session and is kept by every act holds throughout. -/
theorem after_induction {P : Session → Prop} (kept : ∀ s a, P s → P (s.acted a)) {s : Session}
    (holds : P s) (acts : List Act) : P (s.after acts) := by
  induction acts generalizing s with
  | nil => exact holds
  | cons a rest ih => exact ih (kept s a holds)

/-! ### What is aside from the course of a session -/

/-- Nothing changes that decides what becomes of scripts and requests. -/
structure Aside (s s' : Session) : Prop where
  table : s'.engine.table = s.engine.table
  scripts : s'.engine.scripts = s.engine.scripts
  requests : s'.console.requests = s.console.requests
  duty : s'.duty = s.duty
  hasFailed : s'.hasFailed = s.hasFailed

theorem Aside.refl (s : Session) : Aside s s := ⟨rfl, rfl, rfl, rfl, rfl⟩

theorem Aside.trans {s s' s'' : Session} (first : Aside s s') (second : Aside s' s'') :
    Aside s s'' where
  table := second.table.trans first.table
  scripts := second.scripts.trans first.scripts
  requests := second.requests.trans first.requests
  duty := second.duty.trans first.duty
  hasFailed := second.hasFailed.trans first.hasFailed

theorem keep_aside (s : Session) : Aside s s.keep := by
  unfold keep
  split
  · exact .refl s
  · exact ⟨rfl, rfl, rfl, rfl, rfl⟩

theorem transcribe_aside (s : Session) :
    Aside { s with engine := s.engine.clearLogs } s.transcribe := by
  have written : ∀ (effects : List Effect) (s : Session), Aside s (effects.foldl write s) := by
    intro effects
    induction effects with
    | nil => exact .refl
    | cons effect rest ih =>
      intro s
      have first : Aside s (s.write effect) := ⟨rfl, rfl, rfl, rfl, rfl⟩
      exact first.trans (ih _)
  obtain ⟨table, scripts, requests, duty, hasFailed⟩ :=
    written (s.engine.scripts.flatMap Script.log) s
  refine ⟨table, ?_, requests, duty, hasFailed⟩
  simp only [transcribe, Engine.clearLogs, scripts]

theorem readOn_aside (s : Session) : Aside s s.readOn := by
  have heard : ∀ (c : Console) now raw, (c.ingest now raw).2.requests = c.requests := by
    intro c now raw
    unfold Console.ingest
    dsimp only
    split
    · rfl
    · split
      · rfl
      · next notice _ => cases notice <;> rfl
  unfold readOn
  split
  · next line lines _ _ =>
    have same := heard s.console s.now line
    generalize s.console.ingest s.now line = answer at same ⊢
    exact ⟨rfl, rfl, same, rfl, rfl⟩
  · exact .refl s

theorem publish_aside {s s' : Session} (published : s.publish? = some s') : Aside s s' := by
  unfold publish? at published
  split at published
  · next event events _ =>
    split at published
    · cases published
      have first : Aside s { s with engine := s.engine.publish event, feed := { s.feed with events } } :=
        ⟨rfl, rfl, rfl, rfl, rfl⟩
      exact first.trans (readOn_aside _)
    · cases published
  · cases published

/-! ### Acts -/

/-- A step of a script changes the script and the world, and what it did is written down. -/
theorem stepScript_some {s s' : Session} {index : Nat} {wake : Wake}
    (stepped : s.stepScript? index wake = some s') :
    ∃ c r, s.engine.scripts[index]? = some c ∧
      Run.step? s.engine.table wake ⟨c, s.engine.world⟩ = some r ∧
      s'.console.requests = r.world.client.requests ∧
      s'.engine.table = s.engine.table ∧ s'.duty = s.duty ∧ s'.hasFailed = s.hasFailed ∧
      s'.engine.scripts = (s.engine.scripts.set index r.script).map Script.forget := by
  obtain ⟨engine, taken, same⟩ := Option.map_eq_some_iff.mp stepped
  obtain ⟨c, r, found, step, rfl⟩ := Engine.stepAt_some taken
  subst same
  have aside := fun s : Session => (transcribe_aside s).trans (keep_aside s.transcribe)
  exact ⟨c, r, found, step, (aside _).requests, (aside _).table, (aside _).duty,
    (aside _).hasFailed, (aside _).scripts⟩

/-- A request is answered: a script is started, or the user is told why none can be. -/
inductive Answered (s : Session) (request : RunRequest) (s' : Session) : Prop
  | started {loaded : Source.Loaded}
      (found : Source.find s.console.disk request.name s.base = .ok loaded)
      (scripts : s'.engine.scripts = s.engine.scripts ++
        [Script.create s.engine.config loaded.name loaded.program request.arguments])
  | refused {f : Fault} (missing : Source.find s.console.disk request.name s.base = .error f)
      (scripts : s'.engine.scripts = s.engine.scripts)
      (told : s'.transcript = s.transcript ++ s.console.writes (.echo
        ("Could not run script " ++ Cause.quoted request.name ++ ": " ++ f.message)))

theorem start_answers (s : Session) (request : RunRequest) :
    Answered s request (s.start request) := by
  unfold start
  split
  · next loaded found => exact .started found (keep_aside _).scripts
  · next f missing => exact .refused missing rfl rfl

theorem start_same (s : Session) (request : RunRequest) :
    (s.start request).engine.table = s.engine.table ∧
      (s.start request).console.requests = s.console.requests ∧
      (s.start request).hasFailed = s.hasFailed := by
  unfold start
  split
  · have aside := keep_aside
    exact ⟨(aside _).table, (aside _).requests, (aside _).hasFailed⟩
  · exact ⟨rfl, rfl, rfl⟩

inductive Supervises (s : Session) : Session → Prop
  | look {index : Nat} {c : Script} (duty : s.duty = .look index)
      (found : s.engine.scripts[index]? = some c) :
      Supervises s { s with duty := .listen index c.isActive }
  | retire {index : Nat} (duty : s.duty = .look index) (alone : s.engine.scripts = []) :
      Supervises s { s with duty := .rest }
  | await {index deadline : Nat} (duty : s.duty = .look index)
      (beyond : s.engine.scripts.length ≤ index) (some : s.engine.scripts ≠ []) :
      Supervises s { s with duty := .receive deadline }
  | listen {index : Nat} {isActive : Bool} (duty : s.duty = .listen index isActive) :
      Supervises s { s.listenTo index with
        duty := if isActive then .look (index + 1) else .part index }
  | part {index : Nat} (duty : s.duty = .part index)
      (finished : (s.engine.scripts[index]?).all Script.isFinished) :
      Supervises s { s.letGoOf index with duty := .look index }
  | take {deadline : Nat} {request : RunRequest} {requests : List RunRequest}
      (duty : s.duty = .receive deadline) (waiting : s.console.requests = request :: requests) :
      Supervises s { (s.setConsole { s.console with requests }).start request with duty := .tend }
  | lapse {deadline : Nat} (duty : s.duty = .receive deadline) (none : s.console.requests = [])
      (due : deadline ≤ s.now) : Supervises s { s with duty := .tend }
  | tend (duty : s.duty = .tend) : Supervises s { s.stopStarving with duty := .look 0 }

theorem supervise_some {s s' : Session} (acted : s.supervise? = some s') : Supervises s s' := by
  unfold supervise? at acted
  split at acted
  · next duty =>
    split at acted
    · next found => cases acted; exact .look duty found
    · next missing =>
      split at acted
      · next alone => cases acted; exact .retire duty (List.isEmpty_iff.mp alone)
      · next several =>
        cases acted
        exact .await duty (List.getElem?_eq_none_iff.mp missing)
          fun none => several (List.isEmpty_iff.mpr none)
  · next duty => cases acted; exact .listen duty
  · next duty =>
    split at acted
    · next finished => cases acted; exact .part duty finished
    · cases acted
  · next duty =>
    split at acted
    · next waiting => cases acted; exact .take duty waiting
    · next none =>
      split at acted
      · next due => cases acted; exact .lapse duty none due
      · cases acted
  · next duty => cases acted; exact .tend duty
  · cases acted

/-- What becomes of a session by one act: scripts and supervisor act if they can, and nothing else
matters. -/
inductive Comes (s s' : Session) : Act → Prop
  | aside {a : Act} (aside : Aside s s') (blocked : a = .of .supervisor → s.supervise? = none) :
      Comes s s' a
  | script {index : Nat} {wake : Wake} (stepped : s.stepScript? index wake = some s') :
      Comes s s' (.of (.script index wake))
  | supervisor (supervises : Supervises s s') : Comes s s' (.of .supervisor)

theorem acted_comes (s : Session) (a : Act) : Comes s (s.acted a) a := by
  cases a with
  | of actor =>
    cases acts : s.act? actor with
    | none =>
      rw [acted, acts]
      refine .aside (.refl s) fun same => ?_
      cases same
      exact acts
    | some s' =>
      rw [acted, acts]
      cases actor with
      | script index wake => exact .script acts
      | feeder => exact .aside (publish_aside acts) nofun
      | supervisor => exact .supervisor (supervise_some acts)
  | line text =>
    have first : Aside s { s with feed := { s.feed with lines := s.feed.lines ++ [text] } } :=
      ⟨rfl, rfl, rfl, rfl, rfl⟩
    exact .aside (first.trans (readOn_aside _)) nofun
  | endInput | elapse _ => exact .aside ⟨rfl, rfl, rfl, rfl, rfl⟩ nofun

/-! ### New sessions -/

theorem create_ok {d : Disk} {o : RunOptions} {script : String} {arguments : List String}
    {seed : UInt32} {s : Session} (created : Session.create d o script arguments seed = .ok s) :
    s.engine.table = .standard ∧ s.duty = .look 0 ∧ s.hasFailed = false ∧
      s.console.requests = [] ∧
      ∃ config name program, s.engine.scripts = [Script.create config name program arguments] := by
  simp only [Session.create, bind, Except.bind, pure, Except.pure] at created
  split at created
  · cases created
  · split at created
    · cases created
    · split at created
      · cases created
      · next loaded _ =>
        split at created
        · cases created
        · next made =>
          cases created
          cases made
          have aside := keep_aside
          exact ⟨(aside _).table, (aside _).duty, (aside _).hasFailed, (aside _).requests,
            _, loaded.name, loaded.program, (aside _).scripts⟩

end Session

end Questline
