import Questline.MemoryClient
import Questline.Proofs.Calls
import Questline.Proofs.Matching

/-! A jump asked for from outside. Whatever a script waits for, the request cuts the wait short and
leaves everything else alone; of several requests the last one counts. -/
namespace Questline

/-! ### Requests -/

namespace Move

variable {σ : Type}

/-- A move is no step of the script at an index and sends it no message but requests to jump. -/
def spares (i : Nat) : Move σ → Bool
  | step j _ | stop j | resume j => j != i
  | _ => true

def request? (i : Nat) : Move σ → Option String
  | goto j label => if j = i then some label else none
  | _ => none

end Move

/-- A script that has been asked to jump to some labels, and perhaps been suspended. -/
def Script.asked (s : Script) (labels : List String) (state : RunState) : Script :=
  { s with state, controls := s.controls ++ labels.map .goto }

theorem Script.asked_nil (s : Script) : s.asked [] s.state = s := by
  simp only [asked, List.map_nil, List.append_nil]

theorem Script.asked_asked (s : Script) (first second : List String) (before after : RunState) :
    (s.asked first before).asked second after = s.asked (first ++ second) after := by
  simp only [asked, List.map_append, List.append_assoc]

/-- A script whose wait has been cut short by a request, and that has further ones to look at. -/
def Script.cutShort (s : Script) (label : String) (more : List String) (state : RunState) :
    Script :=
  { s with
    state
    controls := more.map .goto
    requestedLabel := some label
    cursor := s.next
    phase := .ready }

theorem Script.cutShort_keeps {σ : Type} (s : Script) (label : String) (more : List String)
    (state : RunState) (world : World σ) :
    Run.Keeps [.state, .position] ⟨s, world⟩ ⟨s.cutShort label more state, world⟩ := by
  intro p outside
  cases p <;> simp_all [Part.Same, cutShort]

namespace Engine

variable {σ : Type}

theorem address_other {e : Engine σ} {i j : Nat} (different : j ≠ i) (f : Script → Script) :
    (e.address j f).scripts[i]? = e.scripts[i]? := by
  simp only [address, List.getElem?_modify, if_neg different, Option.map_eq_map, Option.map_id']

theorem address_own (e : Engine σ) (i : Nat) (f : Script → Script) :
    (e.address i f).scripts[i]? = (e.scripts[i]?).map f := by
  simp only [address, List.getElem?_modify, if_true, Option.map_eq_map]

def requests (i : Nat) (moves : List (Move σ)) : List String := moves.filterMap (Move.request? i)

theorem requests_cons (i : Nat) (m : Move σ) (rest : List (Move σ)) :
    requests i (m :: rest) = (m.request? i).toList ++ requests i rest := by
  unfold requests
  cases asks : m.request? i with
  | none => rw [List.filterMap_cons_none asks]; rfl
  | some label => rw [List.filterMap_cons_some asks]; rfl

variable [Client σ]

theorem asked_moved {e : Engine σ} {i : Nat} {s : Script} (found : e.scripts[i]? = some s)
    (active : s.isActive) {m : Move σ} (spared : m.spares i) :
    ∃ state, (e.moved m).scripts[i]? = some (s.asked (m.request? i).toList state) ∧
      (s.asked (m.request? i).toList state).isActive := by
  have unchanged : (e.moved m).scripts[i]? = some s → m.request? i = none →
      ∃ state, (e.moved m).scripts[i]? = some (s.asked (m.request? i).toList state) ∧
        (s.asked (m.request? i).toList state).isActive := by
    intro same silent
    rw [silent, Option.toList_none]
    exact ⟨s.state, by rw [s.asked_nil]; exact same, by rw [s.asked_nil]; exact active⟩
  cases m with
  | step j _ => exact unchanged ((script_other (bne_iff_ne.mp spared)).trans found) rfl
  | stop j =>
    exact unchanged ((address_other (bne_iff_ne.mp spared) _).trans found) rfl
  | suspend j =>
    by_cases own : j = i
    · subst own
      refine ⟨(s.suspend.2).state, ?_, ?_⟩
      · simp only [moved, address_own, found, Option.map_some, Move.request?, Option.toList_none]
        unfold Script.suspend
        split <;> simp only [Script.asked, List.map_nil, List.append_nil]
      · unfold Script.suspend
        split
        · rfl
        · exact active
    · exact unchanged ((address_other own _).trans found) rfl
  | resume j =>
    exact unchanged ((address_other (bne_iff_ne.mp spared) _).trans found) rfl
  | goto j label =>
    by_cases own : j = i
    · subst own
      refine ⟨s.state, ?_, active⟩
      simp only [moved, address_own, found, Option.map_some, Move.request?, if_true,
        Option.toList_some, Script.requestGoto, active]
      rfl
    · exact unchanged ((address_other own _).trans found) (by simp only [Move.request?, if_neg own])
  | start name source arguments =>
    obtain ⟨within, _⟩ := List.getElem?_eq_some_iff.mp found
    refine unchanged ?_ rfl
    simp only [moved, start]
    rw [List.getElem?_append_left within]
    exact found
  | publish event => exact unchanged found rfl
  | elapse milliseconds => exact unchanged found rfl
  | client client => exact unchanged found rfl
  | globals globals => exact unchanged found rfl

/-- All requests are there, in the order in which they came, and nothing else has happened to the
script. -/
theorem asked_after {e : Engine σ} {i : Nat} {s : Script} (found : e.scripts[i]? = some s)
    (active : s.isActive) {moves : List (Move σ)} (spared : ∀ m ∈ moves, m.spares i) :
    ∃ state, (e.after moves).scripts[i]? = some (s.asked (requests i moves) state) ∧
      (s.asked (requests i moves) state).isActive := by
  induction moves generalizing e s with
  | nil => exact ⟨s.state, by rw [requests, List.filterMap_nil, s.asked_nil]; exact found, active⟩
  | cons m rest ih =>
    obtain ⟨state, found₁, active₁⟩ := asked_moved found active (spared m List.mem_cons_self)
    obtain ⟨state', found₂, active₂⟩ :=
      ih found₁ active₁ fun m' member => spared m' (List.mem_cons_of_mem m member)
    rw [Script.asked_asked, ← requests_cons] at found₂ active₂
    exact ⟨state', found₂, active₂⟩

end Engine

namespace Run

variable {σ : Type}

theorem poll_requests (label : Option String) (labels : List String) :
    poll label (labels.map .goto) = (false, labels.getLast?.or label, []) := by
  induction labels generalizing label with
  | nil => rfl
  | cons first rest ih =>
    simp only [List.map_cons, poll, ih]
    cases rest <;> simp [List.getLast?_cons]

theorem release_eq (r : Run σ) (w : Wait) : r.release w =
    ⟨r.script, { r.world with
      stream := w.subscription?.elim r.world.stream r.world.stream.unsubscribe }⟩ := by
  unfold release
  cases w.subscription? <;> rfl

variable [Client σ]

/-- The next step of a script reaches the command at an index: it comes up to it, and nothing has
changed but the place. -/
def Reaches (r : Run σ) (index : Nat) : Prop :=
  ∃ q, (∀ wake, r.turn? wake = some q.approach) ∧ Keeps [.position, .next] r q ∧
    q.script.line = some index ∧
    q.script.command?.isSome ∧ q.script.next = r.script.program.next? index ∧
    q.script.controls = [] ∧ q.script.requestedLabel = none

theorem step_of_request (table : CommandTable) {r : Run σ} {w : Wait} {label : String}
    {rest : List Control} (waits : r.script.phase = .waiting w)
    (asked : r.script.controls = .goto label :: rest) :
    r.step? table .message = some
      ({ r with script := { r.script with controls := rest, requestedLabel := some label } }.interrupt
        w) := by
  simp only [step?, turn?, waits, wake?, asked, heed, Option.map_some, Turn.complete]

theorem turn_of_requests (wake : Wake) {r : Run σ} {labels : List String} {label : String}
    (ready : r.script.phase = .ready) (active : r.script.isActive)
    (asked : r.script.controls = labels.map .goto)
    (last : labels.getLast?.or r.script.requestedLabel = some label) :
    r.turn? wake = some
      (let q := { r with script := { r.script with requestedLabel := none, controls := [] } }
      match r.script.program.resolve label with
      | .ok target => { q with script := { q.script with cursor := target.line } }.enter
      | .error f => .ended (q.report f).finish) := by
  cases resolved : r.script.program.resolve label <;>
    simp only [turn?, ready, proceed, active, asked, poll_requests, last, resolved, Bool.not_true,
      Bool.false_eq_true, if_false]

theorem resolve_command {p : Program} {label : String} {target : Program.JumpTarget} {index : Nat}
    (resolved : p.resolve label = .ok target) (line : target.line = some index) :
    (p.command? index).isSome := by
  have first : ∀ start, p.firstAt? start = some index → (p.command? index).isSome := by
    intro start found
    have isFirst := p.firstAt_isFirstFrom start
    rw [found] at isFirst
    exact isFirst.2.1
  unfold Program.resolve at resolved
  split at resolved
  · cases resolved
    exact first _ line
  · split at resolved
    · cases resolved
      exact first _ line
    · cases resolved

theorem reaches_of_requests {r : Run σ} {labels : List String} {label : String}
    {target : Program.JumpTarget} {index : Nat} (ready : r.script.phase = .ready)
    (active : r.script.isActive) (asked : r.script.controls = labels.map .goto)
    (last : labels.getLast?.or r.script.requestedLabel = some label)
    (resolved : r.script.program.resolve label = .ok target) (line : target.line = some index) :
    r.Reaches index := by
  have turn := fun wake => turn_of_requests wake ready active asked last
  obtain ⟨command, present⟩ := Option.isSome_iff_exists.mp (resolve_command resolved line)
  simp only [resolved, line, enter, takeUp, present] at turn
  refine ⟨_, turn, ?_, rfl, ?_, rfl, rfl, rfl⟩
  · intro p outside
    cases p <;> simp_all [Part.Same]
  · simp only [Script.command?, Option.bind_some, present, Option.isSome_some]

end Run

namespace Engine

variable {σ : Type} [Client σ]

theorem ends {e : Engine σ} {i : Nat} {s : Script} {r : Run σ} {wake₁ : Wake}
    (wake₂ wake₃ : Wake) (found : e.scripts[i]? = some s)
    (stepped : Run.step? e.table wake₁ ⟨s, e.world⟩ = some r) (ending : r.script.phase = .ending) :
    ∃ s' : Script, (e.after [.step i wake₁, .step i wake₂, .step i wake₃]).scripts[i]? = some s' ∧
      s'.isFinished ∧ s'.state = .stopped ∧
      s'.events = r.script.events ++ [ScriptEvent.stopped] := by
  have found₁ := script_step found stepped
  have shut : Run.step? (e.moved (.step i wake₁)).table wake₂
      ⟨r.script, (e.moved (.step i wake₁)).world⟩ =
      some (Run.shutDown ⟨r.script, (e.moved (.step i wake₁)).world⟩) := by
    simp only [Run.step?, Run.turn?, ending, Option.map_some, Run.Turn.complete]
  have found₂ := script_step found₁ shut
  have goodbye := @script_step _ _ _ _ wake₃ _ (Run.sayGoodbye ⟨_, _⟩) found₂ rfl
  refine ⟨_, goodbye, rfl, rfl, ?_⟩
  rfl

theorem ends_of_requests (wake₁ wake₂ wake₃ : Wake) {e : Engine σ} {i : Nat} {s : Script}
    {labels : List String}
    {label : String} {target : Program.JumpTarget} (found : e.scripts[i]? = some s)
    (ready : s.phase = .ready) (active : s.isActive) (asked : s.controls = labels.map .goto)
    (last : labels.getLast?.or s.requestedLabel = some label)
    (resolved : s.program.resolve label = .ok target) (line : target.line = none) :
    ∃ s' : Script, (e.after [.step i wake₁, .step i wake₂, .step i wake₃]).scripts[i]? = some s' ∧
      s'.isFinished ∧ s'.state = .stopped ∧ s'.events = s.events ++ [ScriptEvent.stopped] := by
  have turn := Run.turn_of_requests wake₁ (r := ⟨s, e.world⟩) ready active asked last
  simp only [resolved, line, Run.enter] at turn
  exact ends wake₂ wake₃ found (congrArg (Option.map (Run.Turn.complete e.table)) turn) rfl

theorem rejects_of_requests (wake₁ wake₂ wake₃ : Wake) {e : Engine σ} {i : Nat} {s : Script}
    {labels : List String}
    {label : String} (found : e.scripts[i]? = some s) (ready : s.phase = .ready)
    (active : s.isActive) (asked : s.controls = labels.map .goto)
    (last : labels.getLast?.or s.requestedLabel = some label)
    (undeclared : s.program.labels.get? label = none)
    (noFallback : s.program.labels.get? Program.errorLabel = none) :
    ∃ (s' : Script) (f : Fault),
      (e.after [.step i wake₁, .step i wake₂, .step i wake₃]).scripts[i]? = some s' ∧
      s'.isFinished ∧ s'.state = .stopped ∧
      s'.events = s.events ++ [ScriptEvent.fault f, .stopped] ∧
      f.cause = .labelUndefined label ∧ f.code = "ENGINE_LABEL_UNDEFINED" ∧ f.isFatal := by
  have turn := Run.turn_of_requests wake₁ (r := ⟨s, e.world⟩) ready active asked last
  have rejected : s.program.resolve label = .error (Fault.ofCause (.labelUndefined label)) := by
    simp only [Program.resolve, undeclared, noFallback]
  simp only [rejected] at turn
  obtain ⟨s', found', finished, stopped, events⟩ :=
    ends wake₂ wake₃ found (congrArg (Option.map (Run.Turn.complete e.table)) turn) rfl
  refine ⟨s', Run.blamed ⟨s, e.world⟩ (Fault.ofCause (.labelUndefined label)), found', finished,
    stopped, ?_, Run.blamed_cause _ _, ?_, ?_⟩
  · rw [events]
    exact List.append_assoc _ _ _
  · rw [Fault.code, Run.blamed_cause]
    rfl
  · rw [Run.blamed_isFatal]
    rfl

/-- The first request ends the wait, and those that come later are still there. -/
theorem cut_short {e : Engine σ} {i : Nat} {s : Script} {w : Wait} (found : e.scripts[i]? = some s)
    (waits : s.phase = .waiting w) (active : s.isActive)
    (blocked : e.stepAt? i .message = none) {between meanwhile : List (Move σ)}
    (spared : ∀ m ∈ between ++ meanwhile, m.spares i) (asked : requests i between ≠ []) :
    (∃ s₁, (e.after between).scripts[i]? = some s₁ ∧ s₁.phase = s.phase) ∧
    ∃ label more state, requests i (between ++ meanwhile) = label :: more ∧
      ((e.after between).moved (.step i .message)).world = { (e.after between).world with
        stream := w.subscription?.elim (e.after between).world.stream
          (e.after between).world.stream.unsubscribe } ∧
      (((e.after between).moved (.step i .message)).after meanwhile).scripts[i]? =
        some (s.cutShort label more state) ∧ (s.cutShort label more state).isActive := by
  have idle : s.controls = [] := by
    cases queue : s.controls with
    | nil => rfl
    | cons message rest =>
      simp [stepAt?, found, Run.step?, Run.turn?, waits, Run.wake?, queue] at blocked
  obtain ⟨state₁, found₁, active₁⟩ := asked_after found active
    fun m member => spared m (List.mem_append_left _ member)
  obtain ⟨label, rest, queue⟩ := List.exists_cons_of_ne_nil asked
  rw [queue] at found₁ active₁
  have messages : (s.asked (label :: rest) state₁).controls = .goto label :: rest.map .goto := by
    simp only [Script.asked, idle, List.map_cons, List.nil_append]
  have stepped := Run.step_of_request (e.after between).table
    (r := ⟨s.asked (label :: rest) state₁, (e.after between).world⟩) waits messages
  rw [Run.interrupt, Run.release_eq] at stepped
  obtain ⟨state₃, found₃, active₃⟩ := asked_after (script_step found₁ stepped) active₁
    fun m member => spared m (List.mem_append_right _ member)
  refine ⟨⟨_, found₁, rfl⟩, label, rest ++ requests i meanwhile, state₃, ?_, ?_, ?_, active₃⟩
  · rw [requests, List.filterMap_append, ← requests, ← requests, queue, List.cons_append]
  · rw [moved_step found₁ stepped]
    rfl
  · rw [found₃]
    simp only [Script.asked, Run.moveOn, Script.cutShort, List.map_append]

/-- A jump asked for from outside cuts short what the script waits for, and nothing else. The
command that waited has no further effect, its subscription is gone, and the script goes on with the
last label it has been asked for. -/
theorem goto_cuts_wait_short {e : Engine σ} (reachable : e.Reachable) {i : Nat} {s : Script}
    {w : Wait} (found : e.scripts[i]? = some s) (waits : s.phase = .waiting w)
    (active : s.isActive) (blocked : e.stepAt? i .message = none)
    (between meanwhile : List (Move σ)) (spared : ∀ m ∈ between ++ meanwhile, m.spares i)
    (asked : requests i between ≠ []) {label : String}
    (last : (requests i (between ++ meanwhile)).getLast? = some label) :
    let e₁ := e.after between
    let e₂ := e₁.moved (.step i .message)
    let e₃ := e₂.after meanwhile
    e₂.world = { e₁.world with
      stream := w.subscription?.elim e₁.world.stream e₁.world.stream.unsubscribe } ∧
    (∀ id, w.subscription? = some id →
      id ∈ e₁.world.stream.ids ∧ id ∉ e₂.world.stream.ids) ∧
    ∃ s₃, e₃.scripts[i]? = some s₃ ∧
      Run.Keeps [.state, .position] ⟨s, e.world⟩ ⟨s₃, e.world⟩ ∧
      (w.awaiting?.isSome → s₃.watch = .empty) ∧
      (∀ target index, s.program.resolve label = .ok target → target.line = some index →
        Run.Reaches ⟨s₃, e₃.world⟩ index) ∧
      (∀ target, s.program.resolve label = .ok target → target.line = none →
        ∀ wake₁ wake₂ wake₃, ∃ s' : Script,
          (e₃.after [.step i wake₁, .step i wake₂, .step i wake₃]).scripts[i]? = some s' ∧
            s'.isFinished ∧ s'.state = .stopped ∧ s'.events = s.events ++ [ScriptEvent.stopped]) ∧
      (s.program.labels.get? label = none → s.program.labels.get? Program.errorLabel = none →
        ∀ wake₁ wake₂ wake₃, ∃ (s' : Script) (f : Fault),
          (e₃.after [.step i wake₁, .step i wake₂, .step i wake₃]).scripts[i]? = some s' ∧
            s'.isFinished ∧ s'.state = .stopped ∧
            s'.events = s.events ++ [ScriptEvent.fault f, .stopped] ∧
            f.cause = .labelUndefined label ∧ f.code = "ENGINE_LABEL_UNDEFINED" ∧ f.isFatal) := by
  intro e₁ e₂ e₃
  obtain ⟨⟨s₁, found₁, phase₁⟩, first, more, state, queue, world, found₃, active₃⟩ :=
    cut_short found waits active blocked spared asked
  have last : more.getLast?.or (some first) = some label := by
    rw [queue, List.getLast?_cons] at last
    cases end_ : more.getLast? <;> simpa [end_] using last
  refine ⟨world, ?_, _, found₃, s.cutShort_keeps _ _ _ _, ?_, ?_, ?_, ?_⟩
  · intro id listens
    have hears : s₁.listening = some id := by
      simp only [Script.listening, phase₁, waits, listens]
    have held := (accounted_iff found₁).mp (reachable.after between).accounted
    refine ⟨held.exact.mem_iff.mpr (by simp [Script.subscriptions, hears]), ?_⟩
    rw [world]
    simp [listens]
  · intro awaits
    have taken := (reachable.orderly found).taken
    simp only [Script.awaiting?, waits] at taken
    exact taken awaits
  · intro target index resolved line
    exact Run.reaches_of_requests rfl active₃ rfl last resolved line
  · intro target resolved line wake₁ wake₂ wake₃
    have ended := ends_of_requests wake₁ wake₂ wake₃ found₃ rfl active₃ rfl last resolved line
    exact ended
  · intro undeclared noFallback wake₁ wake₂ wake₃
    have rejected :=
      rejects_of_requests wake₁ wake₂ wake₃ found₃ rfl active₃ rfl last undeclared noFallback
    exact rejected

def patient : Engine MemoryClient :=
  (plain {}).after [.start "patient" "waitfor apple\nexit\nthere:\necho x" [], .step 0 .message,
    .step 0 .message]

theorem goto_cuts_wait_short_patient :
    0 ∉ ((patient.after [.goto 0 "elsewhere", .publish .prompt]).moved
      (.step 0 .message)).world.stream.ids ∧
    ∃ s : Script, (((patient.after [.goto 0 "elsewhere", .publish .prompt]).moved
        (.step 0 .message)).after [.goto 0 "there"]).scripts[0]? = some s ∧
      Run.Reaches ⟨s, (((patient.after [.goto 0 "elsewhere", .publish .prompt]).moved
        (.step 0 .message)).after [.goto 0 "there"]).world⟩ 3 := by
  have reachable : patient.Reachable := by
    unfold patient
    exact (plain_reachable _).after _
  have facts : (patient.scripts[0]?).map (fun s : Script => (s.listening, s.isActive,
      (s.program.resolve "there").toOption)) = some (some 0, true, some ⟨some 3, false⟩) ∧
      (patient.stepAt? 0 .message).isNone := by
    decide +kernel
  obtain ⟨first, blocked⟩ := facts
  obtain ⟨s, found, same⟩ := Option.map_eq_some_iff.mp first
  obtain ⟨hears, same⟩ := Prod.mk.inj same
  obtain ⟨active, target⟩ := Prod.mk.inj same
  obtain ⟨w, waits, listens⟩ := Script.waits_of_listening hears
  have resolved : s.program.resolve "there" = .ok ⟨some 3, false⟩ := by
    cases answer : s.program.resolve "there" with
    | error f => rw [answer] at target; cases target
    | ok t => rw [answer] at target; cases target; rfl
  have last : (requests 0 ([Move.goto 0 "elsewhere", .publish .prompt] ++
      [Move.goto 0 "there"] : List (Move MemoryClient))).getLast? = some "there" := by
    decide
  obtain ⟨_, dropped, s₃, found₃, _, _, reached, _⟩ := goto_cuts_wait_short reachable found waits
    active (Option.isNone_iff_eq_none.mp blocked) [.goto 0 "elsewhere", .publish .prompt]
    [.goto 0 "there"] (by decide) (by decide) last
  exact ⟨(dropped 0 listens).2, s₃, found₃, reached _ 3 resolved rfl⟩

end Engine

end Questline
