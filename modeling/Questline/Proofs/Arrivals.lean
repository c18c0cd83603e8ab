import Questline.Proofs.Attention
import Questline.Proofs.Shifting

/-! The commands that wait for one event: a line, a prompt or a room. Each listens on a subscription
of its own, which it opens before it does anything else and closes when it goes on. So it looks at
all that is published from its beginning on, at each event once and in order, and the queue of the
matches that a script has registered fills meanwhile as if nobody were waiting. -/
namespace Questline

/-! ### What is waited for -/

/-- What each group of a pattern has matched in a text, the whole match first, and `none` for a
group that took no part in the match. -/
def Pattern.Machine.captures? (m : Machine) (text : String) : Option (List (Option String)) :=
  (m.run [] none 0 none text.toList).map fun slots => (List.range m.groups).map fun group =>
    match slots.getD (2 * group) none, slots.getD (2 * group + 1) none with
    | some first, some last => some (String.ofList ((text.toList.drop first).take (last - first)))
    | _, _ => none

theorem Pattern.Machine.find_eq_captures (m : Machine) (text : String) :
    m.find? text = (m.captures? text).map fun groups => groups.map fun group => group.getD "" := by
  simp only [find?, captures?, Option.map_map, Function.comp_def, List.map_map]
  congr 1
  funext slots
  refine List.map_congr_left fun group _ => ?_
  unfold groupText
  cases slots.getD (2 * group) none with
  | none => rfl
  | some first => cases slots.getD (2 * group + 1) none <;> rfl

theorem Matcher.ofPattern_ok {pattern : String} {ignoreCase : Bool} {matcher : Matcher}
    (read : ofPattern pattern ignoreCase = .ok matcher) : ∃ machine, matcher = .pattern machine := by
  unfold ofPattern at read
  split at read
  · cases read
  · split at read
    · cases read
    · cases read
      exact ⟨_, rfl⟩

/-- What a command that waits for one event finds in an event: nothing, or the texts to remember of
it. These are the groups of a pattern, each empty that took no part in the match. -/
def Builtin.answer? (arguments : String) : Builtin → GameEvent → Option (List String)
  | waitFor, .line text => if Text.occurs (Text.trim arguments) text then some [] else none
  | waitForPattern, .line text =>
    (Arguments.pattern? arguments).bind fun (pattern, flags) =>
      match Matcher.ofPattern pattern (Arguments.ignoresCase flags) with
      | .ok (.pattern machine) =>
        (machine.captures? text).map fun groups => groups.map fun group => group.getD ""
      | _ => none
  | wait, .prompt => some []
  | nextRoom, .roomChange => some []
  | move, .roomChange => some []
  | _, _ => none

/-- Whether a command waits for one event and is given what it needs: a text, a pattern that can be
read, or a direction that can be sent. -/
def Builtin.Accepted {σ : Type} [Client σ] (r : Run σ) (arguments : String) : Builtin → Prop
  | waitFor => (Text.trim arguments).isEmpty = false
  | waitForPattern => ∃ pattern flags matcher, Arguments.pattern? arguments = some (pattern, flags) ∧
    Matcher.ofPattern pattern (Arguments.ignoresCase flags) = .ok matcher
  | move => (Text.trim arguments).isEmpty = false ∧
    (Client.send r.world.client (Text.trim arguments)).1 = .ok ()
  | wait | nextRoom => True
  | _ => False

/-- Some texts are what is found in the first event in which anything is found. -/
def IsFirstAnswer (answer? : GameEvent → Option (List String)) (events : List GameEvent)
    (texts : List String) : Prop :=
  ∃ before event after, events = before ++ event :: after ∧
    (∀ earlier ∈ before, answer? earlier = none) ∧ answer? event = some texts

def Wait.answer? : Wait → GameEvent → Option (List String)
  | .line _ matcher binds, .line text =>
    (matcher.find? text).map fun groups => if binds then groups else []
  | .event _ expected, happened => if happened = expected then some [] else none
  | _, _ => none

inductive Wait.IsSingle (id : Nat) : Wait → Prop
  | line (matcher : Matcher) (binds : Bool) : IsSingle id (.line id matcher binds)
  | event (expected : GameEvent) : IsSingle id (.event id expected)

theorem Wait.IsSingle.listens {w : Wait} {id : Nat} (single : w.IsSingle id) :
    w.subscription? = some id := by
  cases single <;> rfl

/-- A script is back from a wait and goes on with the line that follows. Texts that were found are
its locals `0`, `1` and so on, and nothing else of it has changed. -/
structure Script.Returned (s s' : Script) (texts : List String) : Prop where
  same : s' = { s with
    vars := { s.vars with locals := s'.vars.locals }, cursor := s.next, phase := .ready }
  bound {k : Nat} {text : String} (found : texts[k]? = some text) :
    s'.vars.locals.get? (toString k) = some (.text text)
  others {name : String} (apart : ∀ k < texts.length, name ≠ toString k) :
    s'.vars.locals.get? name = s.vars.locals.get? name

variable {σ : Type} {wake : Wake}

namespace Run

theorem bindGroups_locals (r : Run σ) (groups : List String) :
    (r.bindGroups groups).script.vars.locals =
      r.script.vars.locals.setTexts id (groups.zipIdx.map fun g => (toString g.2, g.1)) := by
  have bound : ∀ (gs : List (String × Nat)) (vars : Variables),
      (gs.foldl (fun vars g => vars.setLocal (toString g.2) (.text g.1)) vars).locals =
        vars.locals.setTexts id (gs.map fun g => (toString g.2, g.1)) := by
    intro gs
    induction gs with
    | nil => exact fun _ => rfl
    | cons g rest ih => exact fun vars => ih _
  exact bound _ _

/-- The numbers of texts are the names under which they are remembered. -/
theorem names_zipIdx {texts : List String} {name : String} :
    name ∈ (texts.zipIdx.map fun g => (toString g.2, g.1)).map Prod.fst ↔
      ∃ k < texts.length, name = toString k := by
  simp only [List.map_map, List.mem_map, Function.comp_apply, Prod.exists]
  constructor
  · rintro ⟨text, k, member, rfl⟩
    obtain ⟨within, _⟩ := List.getElem?_eq_some_iff.mp (List.mem_zipIdx_iff_getElem?.mp member)
    exact ⟨k, within, rfl⟩
  · rintro ⟨k, within, rfl⟩
    exact ⟨texts[k], k, List.mem_zipIdx_iff_getElem?.mpr (by simp [within]), rfl⟩

theorem bindGroups_returned (r : Run σ) (texts : List String) :
    r.script.Returned (r.bindGroups texts).moveOn.script texts := by
  have specials : (r.bindGroups texts).script.vars.specials = r.script.vars.specials :=
    bindGroups_keeps r texts .specials (by decide)
  constructor
  · simp only [moveOn, bindGroups, setVars] at specials ⊢
    congr 1
    rw [← specials]
  · intro k text found
    obtain ⟨within, _⟩ := List.getElem?_eq_some_iff.mp found
    have agreed : ∀ g ∈ texts.zipIdx.map fun g => (toString g.2, g.1), g.1 = toString k →
        g.2 = text := by
      intro named member same
      obtain ⟨g, among, rfl⟩ := List.mem_map.mp member
      have here := List.mem_zipIdx_iff_getElem?.mp among
      rw [toString_inj.mp same, found] at here
      exact (Option.some.inj here).symm
    change (r.bindGroups texts).script.vars.locals.get? (toString k) = _
    rw [bindGroups_locals, Dict.get?_setTexts agreed, if_pos (names_zipIdx.mpr ⟨k, within, rfl⟩)]
    rfl
  · intro name apart
    have absent : name ∉ (texts.zipIdx.map fun g => (toString g.2, g.1)).map Prod.fst := by
      intro member
      obtain ⟨k, within, same⟩ := names_zipIdx.mp member
      exact apart k within same
    have silent : ∀ g ∈ texts.zipIdx.map fun g => (toString g.2, g.1), g.1 = name → g.2 = "" :=
      fun g member same => absurd (same ▸ List.mem_map_of_mem member) absent
    change (r.bindGroups texts).script.vars.locals.get? name = _
    rw [bindGroups_locals, Dict.get?_setTexts silent, if_neg absent]

/-! ### One step of a wait -/

theorem meet_single {r : Run σ} {w : Wait} {id : Nat} (single : w.IsSingle id)
    (event : GameEvent) :
    r.meet w event =
      (w.answer? event).map fun texts => ((r.unsubscribe id).bindGroups texts, .done) := by
  cases single with
  | line matcher binds =>
    cases event with
    | line text =>
      simp only [meet, Wait.answer?, Option.map_map]
      congr 1
      funext groups
      cases binds <;> rfl
    | _ => rfl
  | event expected =>
    simp only [meet, Wait.answer?]
    split <;> rfl

variable [Client σ]

/-- What a step of a script that waits for one event can do. -/
inductive Attends (w : Wait) (id : Nat) (wake : Wake) (r r' : Run σ) : Prop
  | interrupted {m : Control} {rest : List Control} (looks : wake = .message)
      (message : r.script.controls = m :: rest) (ends : m ≠ .resume)
      (free : r'.script.phase = .ready) (watch : r'.script.watch = r.script.watch)
  | resumed {rest : List Control} (message : r.script.controls = .resume :: rest)
      (same : r' = { r with script := { r.script with controls := rest } })
  | passOver {event : GameEvent} {rest : List GameEvent}
      (queue : r.world.stream.queued id = event :: rest) (unanswered : w.answer? event = none)
      (same : r' = r.withStream (r.world.stream.setQueue id rest))
  | comeBack {event : GameEvent} {rest : List GameEvent} {texts : List String}
      (queue : r.world.stream.queued id = event :: rest) (answered : w.answer? event = some texts)
      (same : r' = (((r.withStream (r.world.stream.setQueue id rest)).unsubscribe id).bindGroups
        texts).moveOn)

omit [Client σ] in
theorem Attends.watch {w : Wait} {id : Nat} {r r' : Run σ} (attends : Attends w id wake r r') :
    r'.script.watch = r.script.watch := by
  cases attends with
  | interrupted _ _ _ _ watch => exact watch
  | resumed _ same | passOver _ _ same | comeBack _ _ same =>
    subst same
    rfl

theorem step_attends {table : CommandTable} {r r' : Run σ} {w : Wait} {id : Nat}
    (waits : r.script.phase = .waiting w) (single : w.IsSingle id)
    (stepped : r.step? table wake = some r') : Attends w id wake r r' := by
  obtain ⟨t, turn, rfl⟩ := Option.map_eq_some_iff.mp stepped
  rw [turn?, waits] at turn
  cases wake with
  | message =>
    simp only [wake?] at turn
    split at turn
    · next m rest controls =>
      cases turn
      cases m with
      | resume =>
        refine .resumed controls ?_
        cases single <;> rfl
      | _ => exact .interrupted rfl controls (by simp) rfl (release_keeps _ w .watch (by decide))
    · cases turn
  | event =>
    obtain ⟨_, event, stream, listens, taken, rfl⟩ := wake_event turn
    cases single.listens.symm.trans listens
    obtain ⟨rest, queue, rfl⟩ := Stream.take_some taken
    rw [meet_single single]
    cases answer : w.answer? event with
    | none => exact .passOver queue answer rfl
    | some texts => exact .comeBack queue answer rfl
  | deadline =>
    have timeless : r.isDue w.deadline? = false := by
      cases single <;> rfl
    simp [wake?, timeless] at turn

theorem step_of_queued {r : Run σ} {w : Wait} {id : Nat} (table : CommandTable)
    (waits : r.script.phase = .waiting w) (single : w.IsSingle id)
    (news : r.world.stream.queued id ≠ []) : (r.step? table .event).isSome := by
  obtain ⟨event, rest, queue⟩ := List.exists_cons_of_ne_nil news
  simp [step?, turn?, waits, wake?, single.listens, Stream.take?, queue]

end Run

/-! ### The beginning of a wait -/

namespace Commands

variable [Client σ] {q : Run σ} {arguments : String}

theorem send_ok {text : String} (sent : (Client.send q.world.client text).1 = .ok ()) :
    send q text = (.ok (), { q.note (.send text) with
      world := { q.world with client := (Client.send q.world.client text).2 } }) := by
  unfold send
  split
  · next answer => rw [answer]
  · next answer =>
    rw [answer] at sent
    cases sent

/-- A move while whose direction is sent some events are published. -/
def moveAmid (events : List GameEvent) (r : Run σ) (arguments : String) : Run σ × Outcome :=
  let direction := Text.trim arguments
  if direction.isEmpty then fail r (.invalidArguments .move)
  else
    let (id, r) := r.subscribe
    match send (r.withStream (r.world.stream.publishAll events)) direction with
    | (.ok (), r) => (r, .waiting (.event id .roomChange))
    | (.error f, r) => (r.unsubscribe id, .fault f)

theorem moveAmid_nil (r : Run σ) (arguments : String) :
    moveAmid [] r arguments = move r arguments := rfl

theorem moveAmid_sent (accepted : Builtin.move.Accepted q arguments) (events : List GameEvent) :
    moveAmid events q arguments =
      ({ q.note (.send (Text.trim arguments)) with world := { q.world with
          client := (Client.send q.world.client (Text.trim arguments)).2
          stream := q.world.stream.subscribe.2.publishAll events } },
        .waiting (.event q.world.stream.nextId .roomChange)) := by
  obtain ⟨given, sent⟩ := accepted
  have sends := send_ok (q := q.subscribe.2.withStream
    (q.subscribe.2.world.stream.publishAll events)) sent
  simp only [moveAmid, given, sends]
  rfl

/-- A command that waits for one event begins a wait for just what it is to find. -/
theorem perform_single {command : Builtin} (accepted : command.Accepted q arguments) :
    ∃ q' w, perform q arguments command = (q', .waiting w) ∧
      w.IsSingle q.world.stream.nextId ∧ w.answer? = command.answer? arguments ∧
      q'.script.watch = q.script.watch ∧ q'.world.stream = q.world.stream.subscribe.2 := by
  have begins : ∀ {q' : Run σ} {w : Wait}, perform q arguments command = (q', .waiting w) →
      w.IsSingle q.world.stream.nextId → w.answer? = command.answer? arguments →
      ∃ q' w, perform q arguments command = (q', .waiting w) ∧
        w.IsSingle q.world.stream.nextId ∧ w.answer? = command.answer? arguments ∧
        q'.script.watch = q.script.watch ∧ q'.world.stream = q.world.stream.subscribe.2 := by
    intro q' w performed single answers
    have trades := perform_trades q arguments command
    rw [performed] at trades
    cases trades with
    | nothing _ _ _ silent => cases single.listens.symm.trans silent
    | await => cases single
    | listen _ watch stream => exact ⟨q', w, performed, single, answers, watch, stream⟩
  cases command with
  | waitFor =>
    have given : (Text.trim arguments).isEmpty = false := accepted
    refine begins (by simp only [perform, waitFor, given]; rfl) (.line _ _) ?_
    funext event
    cases event with
    | line text =>
      simp only [Wait.answer?, Builtin.answer?, Matcher.find?]
      cases Text.occurs (Text.trim arguments) text <;> rfl
    | _ => rfl
  | waitForPattern =>
    obtain ⟨pattern, flags, matcher, given, read⟩ := accepted
    obtain ⟨machine, rfl⟩ := Matcher.ofPattern_ok read
    refine begins (by simp only [perform, waitForPattern, given, read]; rfl) (.line _ _) ?_
    funext event
    cases event with
    | line text =>
      simp only [Wait.answer?, Builtin.answer?, Matcher.find?, given, read, Option.bind_some,
        Pattern.Machine.find_eq_captures, if_true, Option.map_id']
    | _ => rfl
  | wait =>
    refine begins rfl (.event _) ?_
    funext event
    cases event <;> rfl
  | nextRoom =>
    refine begins rfl (.event _) ?_
    funext event
    cases event <;> rfl
  | move =>
    refine begins ((moveAmid_nil q arguments).symm.trans (moveAmid_sent accepted [])) (.event _) ?_
    funext event
    cases event <;> rfl
  | _ => exact accepted.elim

end Commands

/-! ### A wait along a run -/

namespace Engine

variable [Client σ]

def waits (e : Engine σ) (i : Nat) : Bool := (e.scripts[i]?).any (·.isWaiting)

omit [Client σ] in
theorem waits_iff {e : Engine σ} {i : Nat} {s : Script} (found : e.scripts[i]? = some s) :
    e.waits i ↔ ∃ w, s.phase = .waiting w := by
  simp only [waits, found, Option.any_some, Script.isWaiting]
  cases s.phase with
  | waiting w => exact ⟨fun _ => ⟨w, rfl⟩, fun _ => rfl⟩
  | _ => simp

/-- What a move publishes is queued for the matches of a script that holds on to them. -/
theorem queued_watched {e : Engine σ} (accounted : e.Accounted) {m : Move σ} {i id : Nat}
    {s s' : Script} (found : e.scripts[i]? = some s) (opened : s.watch.subscription = some id)
    (found' : (e.moved m).scripts[i]? = some s') (opened' : s'.watch.subscription = some id) :
    (e.moved m).world.stream.queued id = e.world.stream.queued id ++ e.publishes m := by
  have member : ∀ {s : Script}, s.watch.subscription = some id → id ∈ s.subscriptions :=
    fun opened => by simp [Script.subscriptions, opened]
  exact queued_moved accounted found (member opened) found' (member opened')
    fun _ => accounted.idle found opened

/-- A script waits for one event. Of the events that it has heard, it has passed over some in which
it found nothing, and the others are still queued. All of them are queued for the matches that it
has registered, after what was there before. -/
structure Hearing (e : Engine σ) (i id : Nat) (w : Wait) (watch : Watch)
    (before : Nat → List GameEvent) (heard : List GameEvent) : Prop where
  waits : ∃ s, e.scripts[i]? = some s ∧ s.phase = .waiting w ∧ s.watch = watch
  queued : ∃ passed, heard = passed ++ e.world.stream.queued id ∧
    ∀ event ∈ passed, w.answer? event = none
  collected : ∀ other, watch.subscription = some other →
    e.world.stream.queued other = before other ++ heard

section

variable {e : Engine σ} {i id : Nat} {w : Wait} {watch : Watch} {before : Nat → List GameEvent}
  {heard : List GameEvent}

omit [Client σ] in
theorem Hearing.listens (hearing : e.Hearing i id w watch before heard)
    (single : w.IsSingle id) {s : Script} (found : e.scripts[i]? = some s) :
    s.phase = .waiting w ∧ s.watch = watch ∧ s.listening = some id ∧ id ∈ s.subscriptions := by
  obtain ⟨s₀, found₀, waits, same⟩ := hearing.waits
  cases found.symm.trans found₀
  have hears : s.listening = some id := by simp only [Script.listening, waits, single.listens]
  exact ⟨waits, same, hears, by simp [Script.subscriptions, hears]⟩

omit [Client σ] in
theorem Hearing.isOpen (accounted : e.Accounted)
    (hearing : e.Hearing i id w watch before heard) (single : w.IsSingle id) :
    id ∈ e.world.stream.ids := by
  obtain ⟨s, found, _⟩ := hearing.waits
  obtain ⟨_, _, _, member⟩ := hearing.listens single found
  exact ((accounted_iff found).mp accounted).exact.mem_iff.mpr (List.mem_append_left _ member)

theorem Hearing.kept (accounted : e.Accounted)
    (hearing : e.Hearing i id w watch before heard) (single : w.IsSingle id) (m : Move σ)
    {s' : Script} (found' : (e.moved m).scripts[i]? = some s') :
    s'.watch = watch ∧ ∀ other, watch.subscription = some other →
      (e.moved m).world.stream.queued other = before other ++ (heard ++ e.publishes m) := by
  obtain ⟨s, found, _⟩ := hearing.waits
  obtain ⟨waits, same, _⟩ := hearing.listens single found
  obtain ⟨s₁, found₁, fares⟩ := script_fares found m
  cases found'.symm.trans found₁
  have watched : s'.watch = s.watch := by
    cases fares with
    | aside handled => exact (handled.keeps e.world).1 .watch (by decide)
    | step _ stepped => exact (Run.step_attends waits single stepped).watch
  refine ⟨watched.trans same, fun other opened => ?_⟩
  have first : s.watch.subscription = some other := by rw [same, opened]
  have second : s'.watch.subscription = some other := by rw [watched, first]
  rw [queued_watched accounted found first found' second, hearing.collected other opened,
    List.append_assoc]

theorem Hearing.stepped (accounted : e.Accounted)
    (hearing : e.Hearing i id w watch before heard) (single : w.IsSingle id) {s : Script}
    (found : e.scripts[i]? = some s) {r : Run σ}
    (step : Run.step? e.table wake ⟨s, e.world⟩ = some r)
    (busy : r.script.phase ≠ .ready) :
    r.script.phase = .waiting w ∧ ∃ passed, heard = passed ++ r.world.stream.queued id ∧
      ∀ event ∈ passed, w.answer? event = none := by
  obtain ⟨waits, _⟩ := hearing.listens single found
  obtain ⟨passed, queued, nothing⟩ := hearing.queued
  cases Run.step_attends waits single step with
  | interrupted _ _ _ ready => exact absurd ready busy
  | comeBack _ _ back => exact absurd (by rw [back]; rfl) busy
  | resumed _ same =>
    subst same
    exact ⟨waits, passed, queued, nothing⟩
  | @passOver event rest queue unanswered same =>
    subst same
    refine ⟨waits, passed ++ [event], ?_, ?_⟩
    · simp only [Run.withStream]
      rw [Stream.queued_setQueue_self (hearing.isOpen accounted single), List.append_assoc,
        List.singleton_append, ← queue]
      exact queued
    · intro other among
      rcases List.mem_append.mp among with earlier | here
      · exact nothing other earlier
      · rw [List.mem_singleton.mp here]
        exact unanswered

theorem Hearing.moved (accounted : e.Accounted)
    (hearing : e.Hearing i id w watch before heard) (single : w.IsSingle id) {m : Move σ}
    (still : (e.moved m).waits i) :
    (e.moved m).Hearing i id w watch before (heard ++ e.publishes m) := by
  obtain ⟨s, found, _⟩ := hearing.waits
  obtain ⟨waits, _, hears, member⟩ := hearing.listens single found
  obtain ⟨s', found', fares⟩ := script_fares found m
  obtain ⟨watched, collected⟩ := hearing.kept accounted single m found'
  have fate : s'.phase = .waiting w ∧
      ∃ passed, heard ++ e.publishes m = passed ++ (e.moved m).world.stream.queued id ∧
        ∀ event ∈ passed, w.answer? event = none := by
    cases fares with
    | aside handled other =>
      have phase := (handled.keeps e.world).2.trans waits
      obtain ⟨passed, queued, nothing⟩ := hearing.queued
      refine ⟨phase, passed, ?_, nothing⟩
      rcases m.step_or i with ⟨wake, rfl⟩ | outside
      · have stuck := other wake rfl
        rw [moved_stuck found stuck, publishes_of_stuck found stuck, List.append_nil]
        exact queued
      · have member' : id ∈ s'.subscriptions := by
          simp [Script.subscriptions, Script.listening, phase, single.listens]
        have idle : m.isStep i → s.listening ≠ some id := by simp [outside]
        rw [queued_moved accounted found member found' member' idle, ← List.append_assoc, ← queued]
    | @step wake r own step =>
      subst own
      have busy : r.script.phase ≠ .ready := by
        intro ready
        obtain ⟨w', waits'⟩ := (waits_iff found').mp still
        cases ready.symm.trans waits'
      have silent : e.publishes (.step i wake) = [] := by
        simp only [publishes, found, Option.elim_some]
        exact Run.publishes_of_listening hears
      rw [silent, List.append_nil, moved_step found step]
      exact hearing.stepped accounted single found step busy
  exact ⟨⟨s', found', fate.1, watched⟩, fate.2, collected⟩

/-- As long as a script waits, it passes over no event in which it finds something, and no event is
missing where it collects them. -/
theorem Hearing.after (reachable : e.Reachable)
    (hearing : e.Hearing i id w watch before heard) (single : w.IsSingle id)
    {moves : List (Move σ)} (still : e.Throughout (·.waits i) moves) :
    (e.after moves).Hearing i id w watch before (heard ++ along publishes e moves) := by
  induction moves generalizing e heard with
  | nil =>
    simp only [along, List.append_nil]
    exact hearing
  | cons m rest ih =>
    have next := ih (reachable.move m)
      (hearing.moved reachable.accounted single still.2.first) still.2
    simpa only [along, after_cons, List.append_assoc] using next

theorem Hearing.ends (hearing : e.Hearing i id w watch before heard)
    (single : w.IsSingle id) {s s' : Script} (found : e.scripts[i]? = some s)
    (undisturbed : wake = .message → ∀ m ∈ s.controls, m = .resume)
    (found' : (e.moved (.step i wake)).scripts[i]? = some s')
    (ended : (e.moved (.step i wake)).waits i = false) :
    ∃ texts, IsFirstAnswer w.answer? heard texts ∧ s.Returned s' texts := by
  obtain ⟨waits, _⟩ := hearing.listens single found
  obtain ⟨passed, queued, nothing⟩ := hearing.queued
  obtain ⟨s₁, found₁, fares⟩ := script_fares found (.step i wake)
  cases found'.symm.trans found₁
  have free : ∀ w, s'.phase ≠ .waiting w := by
    intro w still
    rw [(waits_iff found').mpr ⟨w, still⟩] at ended
    cases ended
  cases fares with
  | aside handled => exact absurd ((handled.keeps e.world).2.trans waits) (free w)
  | step own stepped =>
    obtain ⟨_, rfl⟩ := Move.step.inj own
    cases Run.step_attends waits single stepped with
    | interrupted looks message ends =>
      exact absurd (undisturbed looks _ (by rw [message]; exact List.mem_cons_self)) ends
    | resumed _ same => exact absurd (by rw [same]; exact waits) (free w)
    | passOver _ _ same => exact absurd (by rw [same]; exact waits) (free w)
    | @comeBack event rest texts queue answered same =>
      refine ⟨texts, ⟨passed, event, rest, by rw [queued, queue], nothing, answered⟩, ?_⟩
      subst same
      exact Run.bindGroups_returned
        ((Run.withStream ⟨s, e.world⟩ (e.world.stream.setQueue id rest)).unsubscribe id) texts

theorem Hearing.news (hearing : e.Hearing i id w watch before heard) (single : w.IsSingle id)
    (answered : ∃ event ∈ heard, (w.answer? event).isSome) :
    (e.stepAt? i .event).isSome := by
  obtain ⟨s, found, waits, _⟩ := hearing.waits
  obtain ⟨passed, queued, nothing⟩ := hearing.queued
  have left : e.world.stream.queued id ≠ [] := by
    intro empty
    obtain ⟨event, among, finds⟩ := answered
    rw [queued, empty, List.append_nil] at among
    rw [nothing event among] at finds
    cases finds
  obtain ⟨r, stepped⟩ := Option.isSome_iff_exists.mp
    (Run.step_of_queued e.table (r := ⟨s, e.world⟩) waits single left)
  simp [stepAt?, found, stepped]

/-- The messages and events that a script which waits has still to look at. -/
def backlog (e : Engine σ) (i id : Nat) : Nat :=
  (e.scripts[i]?).elim 0 (·.controls.length) + (e.world.stream.queued id).length

/-- A step takes a message or an event away, unless it ends the wait. -/
theorem Hearing.shrinks (accounted : e.Accounted)
    (hearing : e.Hearing i id w watch before heard) (single : w.IsSingle id)
    (taken : (e.stepAt? i wake).isSome) (still : (e.moved (.step i wake)).waits i) :
    (e.moved (.step i wake)).backlog i id < e.backlog i id := by
  obtain ⟨e', taken⟩ := Option.isSome_iff_exists.mp taken
  obtain ⟨s, r, found, stepped, _⟩ := stepAt_some taken
  obtain ⟨waits, _⟩ := hearing.listens single found
  have found' := script_step found stepped
  obtain ⟨w', waits'⟩ := (waits_iff found').mp still
  have world : (e.moved (.step i wake)).world = r.world := by rw [moved_step found stepped]
  simp only [backlog, found, found', world, Option.elim_some]
  cases Run.step_attends waits single stepped with
  | interrupted _ _ _ free => cases free.symm.trans waits'
  | comeBack _ _ same =>
    subst same
    cases waits'
  | resumed message same =>
    subst same
    simp only at message
    rw [message]
    exact Nat.add_lt_add_right (Nat.lt_succ_self _) _
  | passOver queue _ same =>
    subst same
    have opened := hearing.isOpen accounted single
    simp only at queue
    simp only [Run.withStream, Stream.queued_setQueue_self opened, queue, List.length_cons]
    omega

/-- A step, if it is one, can be taken. -/
def CanTake (e : Engine σ) : Move σ → Prop
  | .step i wake => (e.stepAt? i wake).isSome
  | _ => True

/-- Once there is something to find among the events, the script needs nothing but steps of its own
to go on, in whatever way it is woken. -/
theorem Hearing.goesOn (reachable : e.Reachable)
    (hearing : e.Hearing i id w watch before heard) (single : w.IsSingle id)
    (answered : ∃ event ∈ heard, (w.answer? event).isSome) (wakes : List Wake)
    (still : e.Throughout (·.waits i) (wakes.map (Move.step i))) :
    ((e.after (wakes.map (Move.step i))).stepAt? i .event).isSome ∧
      (e.Each CanTake (wakes.map (Move.step i)) → wakes.length ≤ e.backlog i id) := by
  induction wakes generalizing e heard with
  | nil => exact ⟨hearing.news single answered, fun _ => Nat.zero_le _⟩
  | cons wake rest ih =>
    obtain ⟨_, still⟩ := still
    have hearing' := hearing.moved reachable.accounted single still.first
    obtain ⟨event, among, finds⟩ := answered
    obtain ⟨news, bound⟩ := ih (reachable.move _) hearing'
      ⟨event, List.mem_append_left _ among, finds⟩ still
    refine ⟨news, fun taken => ?_⟩
    have shrinks := hearing.shrinks reachable.accounted single taken.1 still.first
    exact Nat.lt_of_le_of_lt (bound taken.2) shrinks

end

theorem hearing_of_leadsTo {e : Engine σ} (reachable : e.Reachable) {i : Nat} {s : Script}
    (found : e.scripts[i]? = some s) {q : Run σ} {command : Builtin} {arguments : String}
    (led : e.leadsTo? i wake = some (q, command, arguments))
    (accepted : command.Accepted q arguments) :
    ∃ id w, w.IsSingle id ∧ w.answer? = command.answer? arguments ∧
      (e.moved (.step i wake)).Hearing i id w s.watch
        (fun other => e.world.stream.queued other ++ e.publishes (.step i wake)) [] := by
  obtain ⟨s₀, found₀, led⟩ := Option.bind_eq_some_iff.mp led
  cases found.symm.trans found₀
  obtain ⟨q₀, line, turn, way⟩ := Run.leadsTo_some led
  obtain ⟨_, watch, stream⟩ := Run.way_of_turn e.table turn
  rw [way] at watch stream
  obtain ⟨q', w, performed, single, answers, watch', stream'⟩ := Commands.perform_single accepted
  have stepped := Run.step_of_leadsTo led
  rw [performed] at stepped
  have found' := script_step found stepped
  have same : q'.script.watch = s.watch := watch'.trans watch
  refine ⟨q.world.stream.nextId, w, single, answers, ⟨_, found', rfl, same⟩, ⟨[], ?_, nofun⟩, ?_⟩
  · rw [moved_step found stepped]
    change [] = q'.world.stream.queued _
    rw [stream', stream]
    exact ((reachable.accounted.publishAll _).queued_new).symm
  · intro other opened
    have second : q'.script.watch.subscription = some other := by rw [same, opened]
    rw [List.append_nil]
    exact queued_watched reachable.accounted found opened found' second

theorem after_publishes (e : Engine σ) (events : List GameEvent) :
    e.after (events.map .publish) =
      { e with world := { e.world with stream := e.world.stream.publishAll events } } := by
  induction events generalizing e with
  | nil => rfl
  | cons event rest ih => exact ih _

/-- What is published while a direction is sent is heard as if it came right afterwards. -/
theorem moved_amid {e : Engine σ} {i : Nat} {q : Run σ} {arguments : String}
    (led : e.leadsTo? i wake = some (q, .move, arguments))
    (accepted : Builtin.move.Accepted q arguments)
    (events : List GameEvent) :
    let r := Run.conclude (Commands.moveAmid events q arguments)
    { e with world := r.world, scripts := e.scripts.set i r.script } =
      (e.moved (.step i wake)).after (events.map .publish) := by
  obtain ⟨s, found, led⟩ := Option.bind_eq_some_iff.mp led
  have sent : Commands.perform q arguments .move = _ :=
    (Commands.moveAmid_nil q arguments).symm.trans (Commands.moveAmid_sent accepted [])
  rw [moved_step found (Run.step_of_leadsTo led), after_publishes, sent,
    Commands.moveAmid_sent accepted events]
  rfl

/-- A command that waits for one event ends at the first event that is published after it has begun
and in which there is what it waits for. Nothing else ends it, unless it is interrupted. Once such
an event has been published, the script needs no more than steps of its own to get there: it can go
on to take events, and in whatever way it is woken, only so many steps are left to it until it is
back. A room that comes while a direction is sent counts. The matches that the script has registered
are left to it, with all that has been published meanwhile queued for them. -/
theorem single_wait_ends_at_first_answer {e : Engine σ} (reachable : e.Reachable) {i : Nat}
    {s₀ : Script} (found₀ : e.scripts[i]? = some s₀) {q : Run σ} {command : Builtin}
    {arguments : String} (led : e.leadsTo? i wake = some (q, command, arguments))
    (accepted : command.Accepted q arguments) {e₁ : Engine σ}
    (begun : e₁ = e.moved (.step i wake)) :
    e₁.waits i ∧
    (command = .move → ∀ events,
      let r := Run.conclude (Commands.moveAmid events q arguments)
      { e with world := r.world, scripts := e.scripts.set i r.script } =
        e₁.after (events.map .publish)) ∧
    ∀ listening, e₁.Throughout (·.waits i) listening →
      let e₂ := e₁.after listening
      let published := along publishes e₁ listening
      (∀ last : Wake, ∃ s s', e₂.scripts[i]? = some s ∧
        (e₂.moved (.step i last)).scripts[i]? = some s' ∧
        ((last = .message → ∀ m ∈ s.controls, m = .resume) →
          (e₂.moved (.step i last)).waits i = false → ∃ texts,
            IsFirstAnswer (command.answer? arguments) published texts ∧ s.Returned s' texts) ∧
        s'.watch = s₀.watch ∧ ∀ id, s₀.watch.subscription = some id →
          (e₂.moved (.step i last)).world.stream.queued id = e.world.stream.queued id ++
            along publishes e (.step i wake :: listening ++ [Move.step i last])) ∧
      ((∃ event ∈ published, (command.answer? arguments event).isSome) → ∃ n, ∀ wakes : List Wake,
        let own := wakes.map (Move.step i)
        e₂.Throughout (·.waits i) own → ((e₂.after own).stepAt? i .event).isSome ∧
          (e₂.Each CanTake own → wakes.length ≤ n)) := by
  subst begun
  obtain ⟨id, w, single, answers, hearing⟩ := hearing_of_leadsTo reachable found₀ led accepted
  have opened := reachable.move (.step i wake)
  rw [← answers]
  obtain ⟨s₁, found₁, waits, _⟩ := hearing.waits
  refine ⟨(waits_iff found₁).mpr ⟨w, waits⟩, ?_, fun listening still => ?_⟩
  · rintro rfl events
    exact moved_amid led accepted events
  have heard := hearing.after opened single still
  rw [List.nil_append] at heard
  refine ⟨fun last => ?_, fun answered => ⟨_, heard.goesOn (opened.after _) single answered⟩⟩
  obtain ⟨s, found, _⟩ := heard.waits
  obtain ⟨s', found', _⟩ := script_fares found (.step i last)
  obtain ⟨watch, collected⟩ := heard.kept (opened.after _).accounted single (.step i last) found'
  refine ⟨s, s', found, found', fun undisturbed ended => ?_, watch, fun other opened => ?_⟩
  · exact heard.ends single found undisturbed found' ended
  · rw [collected other opened, List.cons_append, along, along_append, List.append_assoc]
    simp only [along, List.append_nil]

/-- A script that has registered a match, before a line on which it waits for a pattern with a group
that may be absent. -/
def hunting : Engine MemoryClient :=
  (plain {}).after
    [.start "hunting" "match end prize\nwaitforre /(x)?b(.)/i\nmatchwait\nend:" [],
      .step 0 .message, .step 0 .message, .publish (.line "bob")]

/-- The line that came too early and the one with the prize are passed over, and both are still
there for the match. -/
theorem single_wait_ends_at_first_answer_hunting :
    let go := .step 0 .message
    let take := .step 0 .event
    let listening : List (Move MemoryClient) := [.publish .prompt, take, .publish (.line "a prize"),
      .publish (.line "A BC"), .publish (.line "xbx"), take]
    let e := (hunting.moved go).after listening
    let published := [.prompt, .line "a prize", .line "A BC", .line "xbx"]
    ∃ (s s' : Script) (texts : List String), e.scripts[0]? = some s ∧
      (e.moved take).scripts[0]? = some s' ∧
      IsFirstAnswer (Builtin.waitForPattern.answer? "/(x)?b(.)/i") published texts ∧
      s.Returned s' texts ∧
      (List.range 3).map (fun k => (s'.vars.locals.get? (toString k)).map Value.display) =
        [some "BC", some "", some "C"] ∧
      (e.moved take).world.stream.queued 0 = .line "bob" :: published := by
  intro go take listening e published
  have reachable : hunting.Reachable := by
    unfold hunting
    exact (plain_reachable _).after _
  have facts : (hunting.leadsTo? 0 .message).map (fun next => next.2) =
        some (.waitForPattern, "/(x)?b(.)/i") ∧
      (hunting.scripts[0]?).map (fun s : Script => s.watch.subscription) = some (some 0) ∧
      Arguments.pattern? "/(x)?b(.)/i" = some ("(x)?b(.)", "i") ∧
      (Matcher.ofPattern "(x)?b(.)" (Arguments.ignoresCase "i")).isOk ∧
      (hunting.moved go).Throughout (fun e => e.waits 0) listening ∧
      (e.moved take).waits 0 = false ∧
      ((e.moved take).scripts[0]?).map (fun s : Script =>
        (List.range 3).map fun k => (s.vars.locals.get? (toString k)).map Value.display) =
          some [some "BC", some "", some "C"] ∧
      along publishes (hunting.moved go) listening = published ∧
      hunting.world.stream.queued 0 ++ along publishes hunting (go :: listening ++ [take]) =
        .line "bob" :: published := by
    decide +kernel
  obtain ⟨leads, watches, given, read, still, ended, locals, news, all⟩ := facts
  obtain ⟨⟨q, _⟩, led, same⟩ := Option.map_eq_some_iff.mp leads
  cases same
  obtain ⟨s₀, found₀, watched⟩ := Option.map_eq_some_iff.mp watches
  have accepted : Builtin.waitForPattern.Accepted q "/(x)?b(.)/i" := by
    cases machine : Matcher.ofPattern "(x)?b(.)" (Arguments.ignoresCase "i") with
    | ok matcher => exact ⟨_, _, matcher, given, machine⟩
    | error f =>
      rw [machine] at read
      cases read
  obtain ⟨_, _, ends⟩ := single_wait_ends_at_first_answer reachable found₀ led accepted rfl
  obtain ⟨s, s', found, found', ends, _, collected⟩ := (ends listening still).1 .event
  obtain ⟨s₂, found₂, locals⟩ := Option.map_eq_some_iff.mp locals
  cases found'.symm.trans found₂
  obtain ⟨texts, first, returned⟩ := ends nofun ended
  rw [news] at first
  exact ⟨s, s', texts, found, found', first, returned, locals, (collected 0 watched).trans all⟩

end Engine

end Questline
