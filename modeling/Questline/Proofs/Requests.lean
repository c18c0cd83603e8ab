import Questline.Proofs.Acts

/-! Requests to run scripts, on their way from the scripts that make them to the supervisor that
answers them. They are taken in the order in which they were made, and each that is taken is
answered. But the supervisor rests as soon as no script is left, whether or not requests are still
on their way, and these are lost. -/
namespace Questline

variable {σ : Type} {wake : Wake}

/-! ### What scripts ask of a client -/

/-- What a script can make of a client in one step. -/
inductive Client.Called [Client σ] (c : σ) : σ → Prop
  | idle : Called c c
  | send (text : String) : Called c (Client.send c text).2
  | run (name : String) (arguments : List String) : Called c (Client.run c name arguments).2
  | sound (path : String) : Called c (Client.sound c path).2

theorem Client.Called.of_eq [Client σ] {c c' : σ} (same : c' = c) : Client.Called c c' := by
  subst same
  exact .idle

namespace Commands

open Run

variable [Client σ] (r : Run σ) (arguments : String)

theorem send_called (text : String) :
    Client.Called r.world.client (send r text).2.world.client := by
  have called : Client.Called r.world.client (Client.send r.world.client text).2 := .send text
  unfold send
  split
  · next answer => rw [answer] at called; exact called
  · next answer => rw [answer] at called; exact called

/-- What a command makes of the client, it makes by one call. -/
def Calls (result : Run σ × Outcome) : Prop :=
  Client.Called r.world.client result.1.world.client

theorem move_calls : Calls r (move r arguments) := by
  have called := send_called r.subscribe.2 (Text.trim arguments)
  unfold move
  dsimp only
  split
  · exact .idle
  · generalize send r.subscribe.2 (Text.trim arguments) = answer at called
    obtain ⟨_ | _, q⟩ := answer
    · exact called
    · exact called

theorem put_calls : Calls r (put r arguments) := by
  have called := send_called r (Text.trim arguments)
  unfold put
  dsimp only
  generalize send r (Text.trim arguments) = answer at called
  obtain ⟨_ | _, q⟩ := answer
  · exact called
  · dsimp only
    split
    · exact called
    · exact called

theorem run_calls : Calls r (run r arguments) := by
  unfold run
  split
  · exact .idle
  · next name words _ =>
    have called : Client.Called r.world.client _ := .run name words
    split
    · next answer => rw [answer] at called; exact called
    · next answer => rw [answer] at called; exact called

theorem playSound_calls : Calls r (playSound r arguments) := by
  unfold playSound
  dsimp only
  split
  · exact .idle
  · split
    · exact .sound _
    · exact .sound _
    · exact .sound _

theorem perform_calls (command : Builtin) : Calls r (perform r arguments command) := by
  by_cases aside : .client ∉ command.touches
  · exact .of_eq (perform_keeps r arguments command .client aside)
  · unfold perform
    cases command with
    | move => exact move_calls r arguments
    | playSound => exact playSound_calls r arguments
    | put => exact put_calls r arguments
    | run => exact run_calls r arguments
    | _ => exact absurd (by simp [Builtin.touches]) aside

end Commands

theorem Run.step_called [Client σ] {table : CommandTable} {r r' : Run σ}
    (stepped : r.step? table wake = some r') : Client.Called r.world.client r'.world.client := by
  rcases step_cases stepped with turn | ⟨q, line, turn, rfl⟩
  · exact .of_eq (ended_keeps turn .client (by decide))
  · have ready : q.world.client = r.world.client :=
      (execute_turn turn).2.2.2.2 .client (by decide)
    have led : (q.dispatch table line.toList).1.world.client = q.world.client :=
      dispatch_keeps table q line.toList .client (by decide)
    have concluded : ∀ result : Run σ × Outcome,
        (conclude result).world.client = result.1.world.client :=
      fun result => conclude_keeps result.1 result.2 .client (by decide)
    rcases execute_cases table q line.toList with
      ⟨q', command, arguments, found, done⟩ | ⟨q', outcome, found, done⟩
    · rw [found] at led
      rw [done, concluded, ← ready, ← led]
      exact Commands.perform_calls q' arguments command
    · rw [found] at led
      rw [done, concluded, ← ready, ← led]
      exact .idle

/-- Requests only join the queue at its end. -/
theorem Console.requests_prefix {c c' : Console} (called : Client.Called c c') :
    c.requests <+: c'.requests := by
  have ran : ∀ (c : Console) name arguments, c.requests <+: (c.run name arguments).2.requests := by
    intro c name arguments
    unfold Console.run
    split
    · exact List.prefix_rfl
    · exact List.prefix_append _ _
  cases called with
  | idle => exact List.prefix_rfl
  | send text =>
    change c.requests <+: (c.send text).2.requests
    unfold Console.send
    split
    · exact List.prefix_rfl
    · dsimp only
      split
      · exact List.prefix_rfl
      · next request _ => exact ran (c.setLive .lastCommand (.text text)) _ _
  | run name arguments => exact ran c name arguments
  | sound path =>
    change c.requests <+: (c.sound path).2.requests
    unfold Console.sound
    dsimp only
    split
    · exact List.prefix_rfl
    · exact List.prefix_rfl

namespace Session

/-! ### Requests on their way -/

def asked (s : Session) (a : Act) : List RunRequest :=
  match a with
  | .of (.script ..) => (s.acted a).console.requests.drop s.console.requests.length
  | _ => []

def taken (s : Session) : Act → List RunRequest
  | .of .supervisor => if s.isReceiving then s.console.requests.take 1 else []
  | _ => []

theorem requests_of_blocked {s : Session} (blocked : s.supervise? = none)
    (receiving : s.isReceiving) : s.console.requests = [] := by
  unfold isReceiving at receiving
  split at receiving
  · next duty =>
    simp only [supervise?, duty] at blocked
    split at blocked
    · cases blocked
    · next none => exact none
  · cases receiving

theorem Supervises.balance {s s' : Session} (supervises : Supervises s s') :
    s.taken (.of .supervisor) ++ s'.console.requests = s.console.requests := by
  cases supervises with
  | @take _ request requests duty waiting =>
    have rest : ((s.setConsole { s.console with requests }).start request).console.requests =
      requests := (start_same _ _).2.1
    generalize (s.setConsole { s.console with requests }).start request = s' at rest ⊢
    simp only [taken, isReceiving, duty, waiting, if_true, List.take_succ_cons, List.take_zero]
    exact congrArg (request :: ·) rest
  | lapse duty none =>
    simp only [taken, none, List.take_nil, ite_self]
    exact none
  | tend duty =>
    have same : s.stopStarving.console.requests = s.console.requests := by
      unfold stopStarving
      split
      · dsimp only
        split <;> rfl
      · rfl
    simp only [taken, isReceiving, duty]
    exact same
  | look duty | retire duty | await duty | listen duty | part duty =>
    simp only [taken, isReceiving, duty]
    rfl

/-- In one act, what is taken and what is left is what was there and what is new. -/
theorem acted_balance (s : Session) (a : Act) :
    s.taken a ++ (s.acted a).console.requests = s.console.requests ++ s.asked a := by
  cases acted_comes s a with
  | aside aside blocked =>
    have nothing : s.taken a = [] := by
      unfold taken
      split
      · split
        · next receiving => rw [requests_of_blocked (blocked rfl) receiving]; rfl
        · rfl
      · rfl
    have quiet : s.asked a = [] := by
      unfold asked
      split
      · rw [aside.requests, List.drop_length]
      · rfl
    rw [nothing, quiet, aside.requests, List.append_nil]
    rfl
  | script stepped =>
    obtain ⟨c, r, _, step, same, _⟩ := stepScript_some stepped
    have joined := Console.requests_prefix (Run.step_called step)
    rw [← same] at joined
    exact (List.prefix_iff_eq_append.mp joined).symm
  | supervisor supervises => exact supervises.balance.trans (List.append_nil _).symm

theorem along_balance (s : Session) (acts : List Act) :
    s.along taken acts ++ (s.after acts).console.requests =
      s.console.requests ++ s.along asked acts := by
  induction acts generalizing s with
  | nil => exact (List.append_nil _).symm
  | cons a rest ih =>
    calc s.along taken (a :: rest) ++ (s.after (a :: rest)).console.requests
      _ = s.taken a ++
          ((s.acted a).along taken rest ++ ((s.acted a).after rest).console.requests) := by
        rw [along, List.append_assoc]
        rfl
      _ = s.taken a ++ ((s.acted a).console.requests ++ (s.acted a).along asked rest) := by rw [ih]
      _ = s.console.requests ++ (s.asked a ++ (s.acted a).along asked rest) := by
        rw [← List.append_assoc, acted_balance, List.append_assoc]

/-! ### Rest -/

theorem Supervises.restless {s s' : Session} (supervises : Supervises s s') : s.duty ≠ .rest := by
  intro rests
  cases supervises with
  | look duty | retire duty | await duty | listen duty | part duty | take duty | lapse duty
  | tend duty => cases rests.symm.trans duty

theorem Supervises.retires {s s' : Session} (supervises : Supervises s s')
    (rests : s'.duty = .rest) : s'.engine.scripts = [] := by
  cases supervises with
  | retire _ alone => exact alone
  | listen =>
    dsimp only at rests
    split at rests <;> cases rests
  | _ => cases rests

theorem deserted_acted {s : Session} (a : Act) (deserted : s.duty = .rest → s.engine.scripts = [])
    (rests : (s.acted a).duty = .rest) : (s.acted a).engine.scripts = [] := by
  cases acted_comes s a with
  | aside aside => exact aside.scripts.trans (deserted (aside.duty.symm.trans rests))
  | script stepped =>
    obtain ⟨c, r, found, _, _, _, duty, _⟩ := stepScript_some stepped
    rw [deserted (duty.symm.trans rests)] at found
    cases found
  | supervisor supervises => exact supervises.retires rests

theorem deserted_after {d : Disk} {o : RunOptions} {script : String} {arguments : List String}
    {seed : UInt32} {s : Session} (created : Session.create d o script arguments seed = .ok s)
    (acts : List Act) (rests : (s.after acts).duty = .rest) :
    (s.after acts).engine.scripts = [] := by
  obtain ⟨_, duty, _⟩ := create_ok created
  exact after_induction (P := fun s => s.duty = .rest → s.engine.scripts = [])
    (fun _ a => deserted_acted a) (by rw [duty]; nofun) acts rests

/-- Nobody is there any more who makes or takes requests. -/
structure Settled (requests : List RunRequest) (s : Session) : Prop where
  duty : s.duty = .rest
  scripts : s.engine.scripts = []
  requests : s.console.requests = requests

theorem Settled.acted {requests : List RunRequest} {s : Session} (settled : s.Settled requests)
    (a : Act) : (s.acted a).Settled requests := by
  cases acted_comes s a with
  | aside aside =>
    exact ⟨aside.duty.trans settled.duty, aside.scripts.trans settled.scripts,
      aside.requests.trans settled.requests⟩
  | script stepped =>
    obtain ⟨c, r, found, _⟩ := stepScript_some stepped
    rw [settled.scripts] at found
    cases found
  | supervisor supervises => exact absurd settled.duty supervises.restless

theorem Settled.along_taken {requests : List RunRequest} {s : Session} (settled : s.Settled requests)
    (acts : List Act) : s.along taken acts = [] := by
  induction acts generalizing s with
  | nil => rfl
  | cons a rest ih =>
    have nothing : s.taken a = [] := by
      unfold taken
      split
      · simp only [isReceiving, settled.duty]
        rfl
      · rfl
    rw [along, nothing, ih (settled.acted a)]
    rfl

theorem taken_answered {s : Session} {request : RunRequest}
    (takes : s.taken (.of .supervisor) = [request]) :
    Answered s request (s.acted (.of .supervisor)) := by
  simp only [taken] at takes
  split at takes
  · next receiving =>
    unfold isReceiving at receiving
    split at receiving
    · next duty =>
      obtain ⟨rest, waiting⟩ : ∃ rest, s.console.requests = request :: rest := by
        cases queue : s.console.requests with
        | nil => rw [queue] at takes; cases takes
        | cons first rest => rw [queue] at takes; cases takes; exact ⟨rest, rfl⟩
      have answers := start_answers (s.setConsole { s.console with requests := rest }) request
      simp only [acted, act?, supervise?, duty, waiting, Option.getD_some]
      cases answers with
      | started found scripts => exact .started found scripts
      | refused missing scripts told => exact .refused missing scripts told
    · cases receiving
  · cases takes

theorem duty_of_exitCode {s : Session} (ended : s.exitCode?.isSome) : s.duty = .rest := by
  unfold exitCode? at ended
  split at ended
  · next rests => exact rests
  · cases ended

/-- In every session and every interleaving, requests are taken in the order in which they were
made and each exactly once, and each that is taken is answered. What is still on its way when the
supervisor rests is never taken. -/
theorem requests_answered_in_order {d : Disk} {o : RunOptions} {script : String}
    {arguments : List String} {seed : UInt32} {s : Session}
    (created : Session.create d o script arguments seed = .ok s) (acts : List Act) :
    s.along asked acts = s.along taken acts ++ (s.after acts).console.requests ∧
    (∀ request, (s.after acts).taken (.of .supervisor) = [request] →
      Answered (s.after acts) request (s.after (acts ++ [Act.of .supervisor]))) ∧
    ((s.after acts).exitCode?.isSome → (s.after acts).engine.scripts = [] ∧
      ∀ more, (s.after (acts ++ more)).console.requests = (s.after acts).console.requests ∧
        s.along taken (acts ++ more) = s.along taken acts) := by
  obtain ⟨_, _, _, none, _⟩ := create_ok created
  have balance := along_balance s acts
  rw [none] at balance
  refine ⟨balance.symm, fun request takes => ?_, fun ended => ?_⟩
  · rw [after_append]
    exact taken_answered takes
  · have rests := duty_of_exitCode ended
    have settled : (s.after acts).Settled (s.after acts).console.requests :=
      ⟨rests, deserted_after created acts rests, rfl⟩
    refine ⟨settled.scripts, fun more => ⟨?_, ?_⟩⟩
    · rw [after_append]
      exact (after_induction (P := Settled _) (fun _ a still => still.acted a) settled more).requests
    · rw [along_append, settled.along_taken more, List.append_nil]

/-- A script that asks for two others, of which there is one. -/
def relay : Disk := .ofFiles
  [("m.wsl", Text.Utf8.encode "run lost\nrun other"), ("other.wsl", Text.Utf8.encode "echo other")]

/-- The supervisor waits for a request when the script makes both and ends, and then goes on. -/
def handedOver : List Act :=
  List.replicate 3 (Act.of .supervisor) ++ List.replicate 6 (Act.of (.script 0 .message)) ++
    List.replicate 7 (Act.of .supervisor)

theorem relay_facts : ∃ s, Session.create relay {} "m" [] 0 = .ok s ∧
    (s.after handedOver).exitCode? = some 0 ∧
    (s.after handedOver).console.requests = [⟨"other", []⟩] ∧
    (Source.find (s.after handedOver).console.disk "other" (s.after handedOver).base).isOk := by
  have facts : (Session.create relay {} "m" [] 0).toOption.map (fun s =>
      ((s.after handedOver).exitCode?, (s.after handedOver).console.requests,
        (Source.find (s.after handedOver).console.disk "other" (s.after handedOver).base).isOk)) =
      some (some 0, [⟨"other", []⟩], true) := by
    decide +kernel
  cases created : Session.create relay {} "m" [] 0 with
  | error f => rw [created] at facts; cases facts
  | ok s =>
    rw [created] at facts
    obtain ⟨code, rest⟩ := Prod.mk.inj (Option.some.inj facts)
    obtain ⟨requests, found⟩ := Prod.mk.inj rest
    exact ⟨s, rfl, code, requests, found⟩

theorem requests_answered_in_order_relay : ∃ s, Session.create relay {} "m" [] 0 = .ok s ∧
    s.along asked handedOver = s.along taken handedOver ++ [⟨"other", []⟩] ∧
    ∀ more, (s.after (handedOver ++ more)).console.requests = [⟨"other", []⟩] := by
  obtain ⟨s, created, code, requests, _⟩ := relay_facts
  obtain ⟨order, _, lost⟩ := requests_answered_in_order created handedOver
  rw [requests] at order lost
  exact ⟨s, created, order, fun more => ((lost (by rw [code]; rfl)).2 more).1⟩

/-- That the supervisor rests does not mean that no request is on its way. -/
theorem rests_with_request_waiting :
    ¬ ∀ (d : Disk) (o : RunOptions) (script : String) (arguments : List String) (seed : UInt32)
      (s : Session) (acts : List Act), Session.create d o script arguments seed = .ok s →
        (s.after acts).exitCode?.isSome → (s.after acts).console.requests = [] := by
  intro empties
  obtain ⟨s, created, code, requests, _⟩ := relay_facts
  have none := empties relay {} "m" [] 0 s handedOver created (by rw [code]; rfl)
  cases none.symm.trans requests

end Session

end Questline
