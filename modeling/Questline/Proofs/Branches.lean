import Questline.Proofs.Entry
import Questline.Proofs.Failures
import Questline.Proofs.Suspension

/-! Chains of conditionals, which run exactly one branch. All that a line of a chain knows about
those before it is one remembered condition: an `else` looks at it, an `if_` sets it, and no branch
touches it. It holds from the line on whose branch is run, so the lines after that pass theirs over
without asking about any variable. -/
namespace Questline

open Text

/-! ### Lines of a chain -/

/-- Whether a command says which line comes next. -/
def Builtin.jumps : Builtin → Bool
  | goto | gosub | returnBack => true
  | _ => false

theorem Builtin.next_of_jumps {command : Builtin} (stays : command.jumps = false) :
    .next ∉ command.touches := by
  cases command <;> simp_all [jumps, touches]

/-- The keyword of a line is that of a builtin command, which is given the rest as its arguments. -/
def CommandTable.Reads (table : CommandTable) (line : List Char) (command : Builtin)
    (arguments : List Char) : Prop :=
  ∃ keyword, Arguments.splitLine? (trimChars line) = some (keyword, arguments) ∧
    table.get? (String.ofList keyword) = some (.builtin command)

def Action.builtin? : Action → Option Builtin
  | builtin command => some command
  | custom _ => none

theorem CommandTable.reads_of_builtin {table : CommandTable} {keyword : String}
    {line arguments : List Char} {command : Builtin}
    (split : Arguments.splitLine? (trimChars line) = some (keyword.toList, arguments))
    (found : (table.get? keyword).bind Action.builtin? = some command) :
    table.Reads line command arguments := by
  obtain ⟨action, here, isBuiltin⟩ := Option.bind_eq_some_iff.mp found
  refine ⟨keyword.toList, split, ?_⟩
  rw [String.ofList_toList, here]
  cases action with
  | builtin command => rw [Option.some.inj isBuiltin]
  | custom handler => cases isBuiltin

/-- A line is some conditionals, one behind the other, and a command behind them. -/
def CommandTable.Spells (table : CommandTable) (branch : Builtin × String) :
    List Builtin → List Char → Prop
  | [], line => ∃ arguments, table.Reads line branch.1 arguments ∧ String.ofList arguments = branch.2
  | conditional :: inner, line =>
    ∃ rest, table.Reads line conditional rest ∧ table.Spells branch inner rest

/-- One line of a chain: where it is, the variable that it asks about unless it is the last one, and
its branch with the arguments. -/
structure Link where
  index : Nat
  digit? : Option (Fin 10)
  branch : Builtin × String

namespace Link

/-- Whether the branch is run if none before it has been, by which variables hold. -/
def applies (holds : Fin 10 → Bool) (l : Link) : Bool := l.digit?.all holds

/-- What stands in front of the branch. Every line but the first begins with `else`. -/
def conditionals (first : Bool) (l : Link) : List Builtin :=
  (if first then [] else [Builtin.otherwise]) ++ (l.digit?.map .ifSet).toList

/-- What conditionals come to: whether the command behind them is run, and the condition that is
remembered then. -/
def judge (holds : Fin 10 → Bool) (remembered : Bool) : List Builtin → Bool × Bool
  | .ifSet digit :: inner => if holds digit then judge holds true inner else (false, false)
  | .otherwise :: inner => if remembered then (false, true) else judge holds false inner
  | _ => (true, remembered)

/-- A line runs its branch if it applies and no line before it has applied, and it remembers whether
there has been one. -/
theorem judge_conditionals {holds : Fin 10 → Bool} {first remembered decided : Bool} {l : Link}
    (asks : first = true → l.digit?.isSome ∧ decided = false)
    (known : first = false → remembered = decided) :
    (judge holds remembered (l.conditionals first)).1 = (!decided && l.applies holds) ∧
      (l.digit?.isSome → (judge holds remembered (l.conditionals first)).2 =
        (decided || l.applies holds)) := by
  cases digit : l.digit? with
  | none =>
    cases first <;> cases decided <;> simp_all [conditionals, judge, applies]
  | some d =>
    cases first <;> cases decided <;> cases here : holds d <;>
      simp_all [conditionals, judge, applies]

def chosen? (holds : Fin 10 → Bool) (decided : Bool) (links : List Link) : Option Link :=
  if decided then none else links.find? (applies holds)

theorem chosen_cons (holds : Fin 10 → Bool) (decided : Bool) (l : Link) (links : List Link) :
    (if !decided && l.applies holds then some l.branch else none).toList ++
        ((chosen? holds (decided || l.applies holds) links).map branch).toList =
      ((chosen? holds decided (l :: links)).map branch).toList := by
  cases decided with
  | true => simp [chosen?]
  | false => cases applies : l.applies holds <;> simp [chosen?, applies]

end Link

/-- The line at an index is a line of a chain: it refers to no variable, and its branch is a builtin
command that is no conditional, no jump and no return. -/
structure Program.Holds (p : Program) (table : CommandTable) (first : Bool) (l : Link) : Prop where
  line : ∃ command, p.command? l.index = some command ∧
    (∀ c ∈ command.text.toList, c ≠ '%' ∧ c ≠ '$') ∧
    table.Spells l.branch (l.conditionals first) command.text.toList
  direct : l.branch.1.isConditional = false
  stays : l.branch.1.jumps = false

/-- Lines of a program one after the other, of which all but the last one ask about a variable. The
`first` line of a chain begins with its question, the others with `else`. -/
inductive Program.Chain (p : Program) (table : CommandTable) : (first : Bool) → List Link → Prop
  | last {l : Link} (unasking : l.digit? = none) (holds : p.Holds table false l) :
      Chain p table false [l]
  | more {first : Bool} {l next : Link} {rest : List Link} (asking : l.digit?.isSome)
      (holds : p.Holds table first l) (follows : p.next? l.index = some next.index)
      (others : Chain p table false (next :: rest)) : Chain p table first (l :: next :: rest)

theorem Program.Chain.held {p : Program} {table : CommandTable} {first : Bool} {l : Link}
    {rest : List Link} (chain : p.Chain table first (l :: rest)) : p.Holds table first l := by
  cases chain with
  | last _ held => exact held
  | more _ held => exact held

theorem Program.Chain.others {p : Program} {table : CommandTable} {first : Bool} {l next : Link}
    {rest : List Link} (chain : p.Chain table first (l :: next :: rest)) :
    l.digit?.isSome ∧ p.next? l.index = some next.index ∧ p.Chain table false (next :: rest) := by
  cases chain with
  | more asking _ follows others => exact ⟨asking, follows, others⟩

theorem Program.Chain.some_applies {p : Program} {table : CommandTable} {first : Bool}
    {links : List Link} (chain : p.Chain table first links) (holds : Fin 10 → Bool) :
    ∃ l, links.find? (Link.applies holds) = some l := by
  induction chain with
  | @last l unasking _ => exact ⟨l, by simp [Link.applies, unasking]⟩
  | @more _ l _ _ _ _ _ _ ih =>
    obtain ⟨l', found⟩ := ih
    rw [List.find?_cons]
    split
    · exact ⟨l, rfl⟩
    · exact ⟨l', found⟩

variable {σ : Type} {wake : Wake} [Client σ]

namespace Run

theorem condition_of_keeps {parts : List Part} {r r' : Run σ} (kept : Keeps parts r r')
    (aside : ∀ p ∈ [Part.locals, .specials, .globals, .client, .clock], p ∉ parts) :
    r'.condition = r.condition := by
  have same : r'.script.vars.lookup? r'.around = r.script.vars.lookup? r.around := by
    funext name
    have locals : r'.script.vars.locals = r.script.vars.locals :=
      kept .locals (aside _ (by decide))
    have specials : r'.script.vars.specials = r.script.vars.specials :=
      kept .specials (aside _ (by decide))
    have globals : r'.world.globals = r.world.globals := kept .globals (aside _ (by decide))
    have client : r'.world.client = r.world.client := kept .client (aside _ (by decide))
    have clock := (kept .clock (aside _ (by decide))).1
    simp only [Variables.lookup?, Variables.get?, around, locals, specials, globals, client, clock]
  funext digit
  simp only [condition, same]

omit [Client σ] in
theorem shown_keeps (r : Run σ) (line : List Char) : Keeps [.log] r (r.shown line) :=
  trace_keeps r _ _

theorem way_ifSet {table : CommandTable} {r : Run σ} {line rest : List Char} {digit : Fin 10}
    (reads : table.Reads line (.ifSet digit) rest) :
    r.way table line = ({ r.shown line with
        script := { (r.shown line).script with lastCondition := r.condition digit } },
      if r.condition digit then .onward rest else .there (.ended .done)) := by
  obtain ⟨keyword, split, known⟩ := reads
  have asked : (r.shown line).condition = r.condition :=
    condition_of_keeps (shown_keeps r line) (by decide)
  unfold way
  rw [split]
  simp only [known, follow, ← asked]
  rfl

theorem way_otherwise {table : CommandTable} {r : Run σ} {line rest : List Char}
    (reads : table.Reads line .otherwise rest) :
    r.way table line = (r.shown line,
      if r.script.lastCondition then .there (.ended .done) else .onward rest) := by
  obtain ⟨keyword, split, known⟩ := reads
  have unheld : (r.shown line).script.lastCondition = r.script.lastCondition :=
    shown_keeps r line .condition (by decide)
  unfold way
  rw [split]
  simp only [known, follow, ← unheld]
  rfl

/-- A line leads to its branch if its conditionals say so, and to nothing otherwise. The induction
is on the conditionals. -/
theorem dispatch_spelled {table : CommandTable} {branch : Builtin × String}
    (direct : branch.1.isConditional = false) {conditionals : List Builtin} {r : Run σ}
    {line : List Char} (spelled : table.Spells branch conditionals line)
    (all : ∀ c ∈ conditionals, c.isConditional = true) :
    ∃ q, Keeps [.condition, .log] r q ∧
      q.script.lastCondition =
        (Link.judge r.condition r.script.lastCondition conditionals).2 ∧
      r.dispatch table line = (q,
        if (Link.judge r.condition r.script.lastCondition conditionals).1
          then .command branch.1 branch.2 else .ended .done) := by
  induction conditionals generalizing r line with
  | nil =>
    obtain ⟨arguments, ⟨keyword, split, known⟩, same⟩ := spelled
    have led : r.way table line = (r.shown line, .there (.command branch.1 branch.2)) := by
      unfold way
      rw [split]
      simp only [known]
      rw [← same]
      obtain ⟨command, text⟩ := branch
      cases command <;> first | rfl | cases direct
    refine ⟨r.shown line, (shown_keeps r line).mono (by decide), ?_, dispatch_way led⟩
    exact shown_keeps r line .condition (by decide)
  | cons conditional inner ih =>
    obtain ⟨rest, reads, behind⟩ := spelled
    obtain ⟨this, others⟩ := List.forall_mem_cons.mp all
    have shown := shown_keeps r line
    have unheld : (r.shown line).script.lastCondition = r.script.lastCondition :=
      shown .condition (by decide)
    have asked : (r.shown line).condition = r.condition := condition_of_keeps shown (by decide)
    -- The line leads on to the rest of it, in a state that remembers whatever it has found out.
    have onward : ∀ q : Run σ, r.way table line = (q, .onward rest) →
        Keeps [.condition, .log] r q →
        Link.judge r.condition r.script.lastCondition (conditional :: inner) =
          Link.judge q.condition q.script.lastCondition inner →
        ∃ q, Keeps [.condition, .log] r q ∧
          q.script.lastCondition =
            (Link.judge r.condition r.script.lastCondition (conditional :: inner)).2 ∧
          r.dispatch table line = (q,
            if (Link.judge r.condition r.script.lastCondition (conditional :: inner)).1
              then .command branch.1 branch.2 else .ended .done) := by
      intro q led kept judged
      obtain ⟨q', kept', remembered, found⟩ := ih (r := q) behind others
      rw [judged, dispatch_way led]
      exact ⟨q', (kept.trans kept').mono (by decide), remembered, found⟩
    cases conditional with
    | ifSet digit =>
      have led := way_ifSet (r := r) reads
      have kept : Keeps [.condition, .log] r { r.shown line with
          script := { (r.shown line).script with lastCondition := r.condition digit } } := by
        exact (shown.trans (Quiet.judge (r.shown line) (r.condition digit)).kept).mono (by decide)
      cases holds : r.condition digit with
      | true =>
        rw [holds, if_pos rfl] at led
        rw [holds] at kept
        refine onward _ led kept ?_
        rw [condition_of_keeps kept (by decide), Link.judge, holds, if_pos rfl]
      | false =>
        rw [holds] at led kept
        refine ⟨_, kept, ?_, ?_⟩
        · simp [Link.judge, holds]
        · rw [dispatch_way led]
          simp [Link.judge, holds]
    | otherwise =>
      have led := way_otherwise (r := r) reads
      cases remembered : r.script.lastCondition with
      | true =>
        rw [remembered, if_pos rfl] at led
        refine ⟨r.shown line, shown.mono (by decide), ?_, ?_⟩
        · simp [Link.judge, unheld, remembered]
        · rw [dispatch_way led]
          simp [Link.judge]
      | false =>
        rw [remembered] at led onward
        refine onward (r.shown line) led (shown.mono (by decide)) ?_
        rw [asked, unheld, remembered, Link.judge]
        rfl
    | _ => cases this

/-! ### Before a line -/

end Run

/-- A running script that nobody has asked for anything has taken up the line at an index. -/
structure Script.OnLine (s : Script) (index : Nat) : Prop where
  running : s.state = .running
  unasked : s.requestedLabel = none
  heedless : ∀ message ∈ s.controls, message = .resume
  line : s.line = some index
  next : s.next = s.program.next? index

/-- The line at an index is the one that a running script executes next unless somebody interferes:
it comes to it or waits for its turn there. -/
inductive Script.Nears (s : Script) (index : Nat) : Prop
  | ahead (running : s.state = .running) (unasked : s.requestedLabel = none)
      (heedless : ∀ message ∈ s.controls, message = .resume) (ready : s.phase = .ready)
      (cursor : s.cursor = some index)
  | there (onLine : s.OnLine index) {w : Wait} (waits : s.phase = .waiting w)
      (early : (∃ t, w = .roundtime t) ∨ ∃ t, w = .delay t)

namespace Run

/-- The next step towards a line: the script comes nearer without touching anything but its place,
or it executes the line. -/
inductive Nearing (r : Run σ) (index : Nat) : Turn σ → Prop
  | still {q : Run σ} (aside : Keeps [.position, .next] r q) (near : q.script.Nears index) :
      Nearing r index (.ended q)
  | execute {q : Run σ} {command : Command} (aside : Keeps [.position, .next] r q)
      (onLine : q.script.OnLine index) (present : q.script.program.command? index = some command) :
      Nearing r index (.execute q (expand q.script.vars q.around command.text))

variable {r q : Run σ} {index : Nat}

omit [Client σ] in
theorem command_of_onLine (onLine : q.script.OnLine index) :
    q.script.command? = q.script.program.command? index := by
  rw [Script.command?, onLine.line, Option.bind_some]

theorem waiting_nears {w : Wait} (aside : Keeps [.position, .next] r q)
    (onLine : q.script.OnLine index) (early : (∃ t, w = .roundtime t) ∨ ∃ t, w = .delay t) :
    Nearing r index (.ended (q.setPhase (.waiting w))) := by
  have waits : (q.setPhase (.waiting w)).script.phase = .waiting w := rfl
  refine .still ((aside.trans (setPhase_keeps q _)).mono (by decide)) (.there ?_ waits early)
  exact ⟨onLine.running, onLine.unasked, onLine.heedless, onLine.line, onLine.next⟩

theorem arrive_nearing {command : Command} (aside : Keeps [.position, .next] r q)
    (onLine : q.script.OnLine index) (present : q.script.program.command? index = some command) :
    Nearing r index q.arrive := by
  have turn : q.arrive = .execute q (expand q.script.vars q.around command.text) := by
    simp [arrive, Script.isActive, onLine.running, command_of_onLine onLine, present]
  rw [turn]
  exact .execute aside onLine present

theorem throttle_nearing {command : Command} (aside : Keeps [.position, .next] r q)
    (onLine : q.script.OnLine index) (present : q.script.program.command? index = some command) :
    Nearing r index q.throttle := by
  unfold throttle
  split
  · exact waiting_nears aside onLine (.inl ⟨_, rfl⟩)
  · split
    · exact waiting_nears aside onLine (.inr ⟨_, rfl⟩)
    · exact arrive_nearing aside onLine present

theorem approach_nearing {command : Command} (aside : Keeps [.position, .next] r q)
    (onLine : q.script.OnLine index) (present : q.script.program.command? index = some command) :
    Nearing r index q.approach := by
  unfold approach
  rw [command_of_onLine onLine, present]
  dsimp only
  split
  · exact arrive_nearing aside onLine present
  · exact throttle_nearing aside onLine present

theorem poll_resumptions {messages : List Control} (heedless : ∀ m ∈ messages, m = .resume) :
    poll none messages = (false, none, []) := by
  induction messages with
  | nil => rfl
  | cons message rest ih =>
    obtain ⟨first, others⟩ := List.forall_mem_cons.mp heedless
    rw [first, poll]
    exact ih others

theorem turn_nearing {t : Turn σ} {command : Command} (near : r.script.Nears index)
    (present : r.script.program.command? index = some command) (turn : r.turn? wake = some t) :
    Nearing r index t := by
  cases near with
  | ahead running unasked heedless ready cursor =>
    have polled : poll r.script.requestedLabel r.script.controls = (false, none, []) := by
      rw [unasked]
      exact poll_resumptions heedless
    have taken : t = approach { r with script := { r.script with
        requestedLabel := none, controls := [], line := some index
        next := r.script.program.next? index } } := by
      have proceeds : r.turn? wake = some r.proceed := by simp only [turn?, ready]
      rw [proceeds] at turn
      cases turn
      simp [proceed, Script.isActive, running, polled, enter, cursor, takeUp, present]
    rw [taken]
    refine approach_nearing ?_ ⟨running, rfl, by simp, rfl, rfl⟩ present
    exact ((setControls_keeps r none []).trans (setLine_keeps _ (some index) _)).mono (by decide)
  | @there onLine w waits early =>
    have unheard : w.subscription? = none := by
      rcases early with ⟨_, rfl⟩ | ⟨_, rfl⟩ <;> rfl
    rw [turn?, waits] at turn
    cases wake with
    | message =>
      simp only [wake?] at turn
      split at turn
      · next message rest queue =>
        have resumes := onLine.heedless message (by rw [queue]; exact List.mem_cons_self)
        have rests : ∀ m ∈ rest, m = .resume := fun m member =>
          onLine.heedless m (by rw [queue]; exact List.mem_cons_of_mem _ member)
        have taken : t = .ended { r with script := { r.script with controls := rest } } := by
          cases turn
          rw [resumes]
          rcases early with ⟨_, rfl⟩ | ⟨_, rfl⟩ <;> rfl
        rw [taken]
        refine .still ((setControls_keeps r _ rest).mono (by decide)) (.there ?_ waits early)
        exact ⟨onLine.running, onLine.unasked, rests, onLine.line, onLine.next⟩
      · cases turn
    | event =>
      simp only [wake?, unheard, Option.bind_none] at turn
      cases turn
    | deadline =>
      simp only [wake?] at turn
      split at turn
      · cases turn
        rcases early with ⟨_, rfl⟩ | ⟨_, rfl⟩
        · exact throttle_nearing (.refl _ r) onLine present
        · exact arrive_nearing (.refl _ r) onLine present
      · cases turn

omit [Client σ] in
theorem moveOn_nears {parts : List Part} {q q' : Run σ} (onLine : q.script.OnLine index)
    (kept : Keeps parts q q') (aside : ∀ p ∈ [Part.identity, .position, .next], p ∉ parts)
    (running : q'.script.state = .running) {index' : Nat}
    (follows : q.script.program.next? index = some index') : q'.moveOn.script.Nears index' := by
  obtain ⟨controls, label, _, _, _⟩ := kept .position (aside _ (by decide))
  have next : q'.script.next = q.script.next := kept .next (aside _ (by decide))
  refine .ahead running (label.trans onLine.unasked) ?_ rfl ((next.trans onLine.next).trans follows)
  intro message member
  exact onLine.heedless message (controls ▸ member)

/-- A step towards a line of a chain, or the one that executes it: it runs the branch or does not,
and then the script is before the line that follows. -/
theorem step_link {table : CommandTable} {r r' : Run σ} {first : Bool} {l : Link}
    (near : r.script.Nears l.index) (held : r.script.program.Holds table first l)
    (succeeds : ∀ q command arguments, r.leadsTo? table wake = some (q, command, arguments) →
      (Commands.perform q arguments command).2 = .done ∧
        (Commands.perform q arguments command).1.script.state = .running)
    (stepped : r.step? table wake = some r') :
    (r.dispatches? wake = none ∧ r.leadsTo? table wake = none ∧ r'.script.Nears l.index ∧
      Keeps [.position, .next] r r') ∨
    (r.dispatches? wake = some l.index ∧
      (r.leadsTo? table wake).map Prod.snd =
        (if (Link.judge r.condition r.script.lastCondition (l.conditionals first)).1
          then some l.branch else none) ∧
      r'.script.lastCondition =
        (Link.judge r.condition r.script.lastCondition (l.conditionals first)).2 ∧
      ((Link.judge r.condition r.script.lastCondition (l.conditionals first)).1 = false →
        r'.condition = r.condition) ∧
      ∀ index, r.script.program.next? l.index = some index → r'.script.Nears index) := by
  obtain ⟨⟨command, present, literal, spelled⟩, direct, stays⟩ := held
  rcases step_cases stepped with turn | ⟨q, line, turn, rfl⟩
  · cases turn_nearing near present turn with
    | still aside near' =>
      exact .inl ⟨dispatches_ended turn, by simp only [leadsTo?, turn], near', aside⟩
  · cases turn_nearing near present turn with
    | @execute _ command' aside onLine present' =>
      right
      have program : q.script.program = r.script.program := (aside .identity (by decide)).2.1
      have asked : q.condition = r.condition := condition_of_keeps aside (by decide)
      have unheld : q.script.lastCondition = r.script.lastCondition :=
        aside .condition (by decide)
      rw [program, present] at present'
      cases present'
      rw [expand_literal literal] at turn ⊢
      have conditionals : ∀ c ∈ l.conditionals first, c.isConditional = true := by
        intro c member
        cases digit : l.digit? <;> cases first <;> simp_all [Link.conditionals] <;>
          rcases member with rfl | rfl <;> rfl
      obtain ⟨q', kept, remembered, found⟩ :=
        dispatch_spelled (r := q) direct spelled conditionals
      rw [asked, unheld] at remembered found
      have line : r.dispatches? wake = some l.index := by simp only [dispatches?, turn, onLine.line]
      refine ⟨line, ?_⟩
      cases runs : (Link.judge r.condition r.script.lastCondition (l.conditionals first)).1 with
      | true =>
        rw [runs, if_pos rfl] at found
        have led : r.leadsTo? table wake = some (q', l.branch.1, l.branch.2) := by
          simp only [leadsTo?, turn, found]
        obtain ⟨done, running⟩ := succeeds _ _ _ led
        have performed := Commands.perform_keeps q' l.branch.2 l.branch.1
        have result : q.execute table command.text.toList =
            Commands.perform q' l.branch.2 l.branch.1 := by
          rw [execute, found]
        have untouched : ∀ p ∈ [Part.identity, .position, .next],
            p ∉ [Part.condition, .log] ++ l.branch.1.touches := by
          have next := Builtin.next_of_jumps stays
          generalize l.branch.1 = branch at next ⊢
          cases branch <;> simp_all [Builtin.touches]
        have judged : .condition ∉ l.branch.1.touches := by
          generalize l.branch.1 = branch
          cases branch <;> simp [Builtin.touches]
        rw [led, result, conclude_done done]
        have same : (Commands.perform q' l.branch.2 l.branch.1).1.script.lastCondition =
            q'.script.lastCondition := performed .condition judged
        refine ⟨rfl, same.trans remembered, by simp, fun index follows => ?_⟩
        · rw [← program] at follows
          exact moveOn_nears onLine (kept.trans performed) untouched running follows
      | false =>
        rw [runs] at found
        have led : r.leadsTo? table wake = none := by simp [leadsTo?, turn, found]
        have result : q.execute table command.text.toList = (q', .done) := by
          rw [execute, found]
          rfl
        rw [led, result]
        refine ⟨rfl, remembered, fun _ => ?_, fun index follows => ?_⟩
        · exact (condition_of_keeps (kept.trans (moveOn_keeps q')) (by decide)).trans asked
        · have same : q'.script.state = q.script.state := kept .state (by decide)
          rw [← program] at follows
          exact moveOn_nears onLine kept (by decide) (same.trans onLine.running) follows

end Run

/-! ### Along a chain -/

namespace Engine

/-- Whether a variable that is named by a digit exists and is not empty, as the script at an index
sees it: a local one, a special one or a global. -/
def holds (e : Engine σ) (i : Nat) (digit : Fin 10) : Bool :=
  (e.scripts[i]?).any fun s => Run.condition ⟨s, e.world⟩ digit

/-- The builtin command, other than a conditional, that a move makes the script at an index run. -/
def performed (i : Nat) (e : Engine σ) : Move σ → List (Builtin × String)
  | .step j wake => if j = i then ((e.leadsTo? i wake).map Prod.snd).toList else []
  | _ => []

/-- A command that the script runs succeeds at once and does not stop it. -/
def Succeeds (i : Nat) (e : Engine σ) (m : Move σ) : Prop :=
  ∀ wake, m = .step i wake → ∀ q command arguments,
    e.leadsTo? i wake = some (q, command, arguments) →
    (Commands.perform q arguments command).2 = .done ∧
      (Commands.perform q arguments command).1.script.state = .running

/-- Nobody else stops, suspends or diverts the script or has a say in what its variables hold. -/
def Unmeddled (i : Nat) (e : Engine σ) (m : Move σ) : Prop :=
  m.isStep i = false → m.diverts i = false ∧ ∀ digit, (e.moved m).holds i digit = e.holds i digit

/-- What has been done of some lines along moves: they have been executed in order, as far as the
script has come, with the branch of the one that is chosen among these and no other; and the script
is still on its way to the others. -/
def Follows (i : Nat) (links : List Link) (chosen? : List Link → Option Link) (e : Engine σ)
    (moves : List (Move σ)) : Prop :=
  (along (dispatches i) e moves).length ≤ links.length →
    along (dispatches i) e moves =
        (links.take (along (dispatches i) e moves).length).map Link.index ∧
      along (performed i) e moves =
        ((chosen? (links.take (along (dispatches i) e moves).length)).map Link.branch).toList ∧
      ∀ l, links[(along (dispatches i) e moves).length]? = some l →
        ∃ s, (e.after moves).scripts[i]? = some s ∧ s.Nears l.index

variable {e : Engine σ} {i : Nat} {s : Script}

theorem holds_of_found (found : e.scripts[i]? = some s) :
    e.holds i = Run.condition ⟨s, e.world⟩ := by
  funext digit
  rw [holds, found, Option.any_some]

theorem performed_step (found : e.scripts[i]? = some s) :
    performed i e (.step i wake) =
      ((Run.leadsTo? e.table wake ⟨s, e.world⟩).map Prod.snd).toList := by
  simp only [performed, if_true, leadsTo?, found, Option.bind_some]

theorem performed_other {m : Move σ} (other : m.isStep i = false) : performed i e m = [] := by
  cases m with
  | step j _ =>
    have different : j ≠ i := by simpa [Move.isStep] using other
    simp only [performed, if_neg different]
  | _ => rfl

theorem performed_of_silent {m : Move σ} (silent : dispatches i e m = []) :
    performed i e m = [] := by
  rcases m.step_or i with ⟨wake, rfl⟩ | other
  · cases found : e.scripts[i]? with
    | none => simp [performed, leadsTo?, found]
    | some s =>
      rw [dispatches_step found] at silent
      have never := Run.dispatches_none.mp (Option.toList_eq_nil_iff.mp silent)
      rw [performed_step found]
      cases led : Run.leadsTo? e.table wake ⟨s, e.world⟩ with
      | none => rfl
      | some way =>
        obtain ⟨q', command, arguments⟩ := way
        obtain ⟨q, line, turn, _⟩ := Run.leadsTo_some led
        exact absurd turn (never q line)
  · exact performed_other other

theorem along_performed_of_silent {moves : List (Move σ)}
    (silent : along (dispatches i) e moves = []) : along (performed i) e moves = [] := by
  induction moves generalizing e with
  | nil => rfl
  | cons m rest ih =>
    obtain ⟨first, later⟩ := List.append_eq_nil_iff.mp silent
    rw [along, performed_of_silent first, ih later]
    rfl

theorem Follows.later {links : List Link} {chosen? : List Link → Option Link} {m : Move σ}
    {rest : List (Move σ)} (silent : dispatches i e m = [])
    (follows : Follows i links chosen? (e.moved m) rest) :
    Follows i links chosen? e (m :: rest) := by
  unfold Follows
  rw [along, silent, List.nil_append, along, performed_of_silent silent, List.nil_append]
  exact follows

theorem follows_nil {chosen? : List Link → Option Link} (nothing : chosen? [] = none)
    {moves : List (Move σ)} : Follows i [] chosen? e moves := by
  intro none
  have silent : along (dispatches i) e moves = [] :=
    List.eq_nil_of_length_eq_zero (Nat.le_zero.mp none)
  rw [silent, along_performed_of_silent silent]
  refine ⟨rfl, ?_, nofun⟩
  rw [List.take_nil, nothing]
  rfl

theorem Follows.executed {l : Link} {links : List Link}
    {chosen? chosen'? : List Link → Option Link} {m : Move σ} {rest : List (Move σ)}
    (dispatched : dispatches i e m = [l.index])
    (runs : ∀ links, performed i e m ++ ((chosen'? links).map Link.branch).toList =
      ((chosen? (l :: links)).map Link.branch).toList)
    (follows : Follows i links chosen'? (e.moved m) rest) :
    Follows i (l :: links) chosen? e (m :: rest) := by
  intro bound
  rw [along, dispatched] at bound ⊢
  simp only [List.singleton_append, List.length_cons, Nat.add_le_add_iff_right] at bound
  obtain ⟨ran, performs, onward⟩ := follows bound
  refine ⟨?_, ?_, fun l' there => onward l' ?_⟩
  · simp only [List.singleton_append, List.length_cons, List.take_succ_cons, List.map_cons]
    rw [← ran]
  · rw [along, performs]
    simp only [List.singleton_append, List.length_cons, List.take_succ_cons]
    exact runs _
  · simpa using there

theorem Unmeddled.same {m : Move σ} {index : Nat} (unmeddled : Unmeddled i e m)
    (found : e.scripts[i]? = some s) (near : s.Nears index) (other : m.isStep i = false) :
    (e.moved m).scripts[i]? = some s := by
  have unchanged : m.act i s = s := by
    apply Move.act_running _ (unmeddled other).1
    cases near with
    | ahead running => simp [running]
    | there onLine => simp [onLine.running]
  rw [script_act found other, unchanged]

/-- The script at an index is before a line of a chain. That a line before it applies has been
remembered; as long as none has applied, the variables hold what they held before the chain. -/
structure Faces (e : Engine σ) (i : Nat) (s : Script) (holds : Fin 10 → Bool) (first decided : Bool)
    (l : Link) (rest : List Link) : Prop where
  found : e.scripts[i]? = some s
  chain : s.program.Chain e.table first (l :: rest)
  near : s.Nears l.index
  opens : first = true → decided = false
  known : first = false → s.lastCondition = decided
  unread : decided = false → e.holds i = holds

section

variable {holds : Fin 10 → Bool} {first decided : Bool} {l : Link} {rest : List Link}

theorem Faces.other (faces : e.Faces i s holds first decided l rest) {m : Move σ}
    (unmeddled : Unmeddled i e m) (other : m.isStep i = false) :
    (e.moved m).Faces i s holds first decided l rest where
  found := unmeddled.same faces.found faces.near other
  chain := by
    rw [table_moved]
    exact faces.chain
  near := faces.near
  opens := faces.opens
  known := faces.known
  unread undecided := by
    rw [← faces.unread undecided]
    exact funext (unmeddled other).2

/-- What the conditionals of the line come to is what the variables held before the chain. -/
theorem Faces.judged (faces : e.Faces i s holds first decided l rest) :
    let judged := Link.judge (Run.condition ⟨s, e.world⟩) s.lastCondition (l.conditionals first)
    judged.1 = (!decided && l.applies holds) ∧
      (l.digit?.isSome → judged.2 = (decided || l.applies holds)) := by
  intro judged
  have asks : first = true → l.digit?.isSome ∧ decided = false := by
    intro isFirst
    cases faces.chain with
    | last => cases isFirst
    | more asking => exact ⟨asking, faces.opens isFirst⟩
  obtain ⟨runs, remembers⟩ :=
    @Link.judge_conditionals (Run.condition ⟨s, e.world⟩) first s.lastCondition decided l asks
      faces.known
  have applies : decided = false →
      l.applies (Run.condition ⟨s, e.world⟩) = l.applies holds := by
    intro undecided
    rw [← holds_of_found faces.found, faces.unread undecided]
  cases decided with
  | true => exact ⟨runs, remembers⟩
  | false =>
    rw [applies rfl] at runs remembers
    exact ⟨runs, remembers⟩

theorem Faces.step (faces : e.Faces i s holds first decided l rest)
    (succeeds : Succeeds i e (.step i wake)) {r : Run σ}
    (stepped : Run.step? e.table wake ⟨s, e.world⟩ = some r) :
    (dispatches i e (.step i wake) = [] ∧
      (e.moved (.step i wake)).Faces i r.script holds first decided l rest) ∨
    (dispatches i e (.step i wake) = [l.index] ∧
      (∀ links, performed i e (.step i wake) ++
        ((Link.chosen? holds (decided || l.applies holds) links).map Link.branch).toList =
        ((Link.chosen? holds decided (l :: links)).map Link.branch).toList) ∧
      ∀ next others, rest = next :: others →
        (e.moved (.step i wake)).Faces i r.script holds false (decided || l.applies holds) next
          others) := by
  have found' := script_step faces.found stepped
  have program : r.script.program = s.program := Run.step_program stepped
  have table : (e.moved (.step i wake)).table = e.table := table_moved e _
  have sees : (e.moved (.step i wake)).holds i = r.condition := by
    rw [holds_of_found found', moved_step faces.found stepped]
  have sees₀ := holds_of_found faces.found
  have performs := succeeds wake rfl
  simp only [leadsTo?, faces.found, Option.bind_some] at performs
  obtain ⟨runs, remembers⟩ := faces.judged
  rcases Run.step_link faces.near faces.chain.held performs stepped with
    ⟨silent, _, near, aside⟩ | ⟨dispatched, led, remembered, spared, onward⟩
  · refine .inl ⟨?_, found', ?_, near, faces.opens, fun isLater => ?_, fun undecided => ?_⟩
    · rw [dispatches_step faces.found, silent]
      rfl
    · rw [program, table]
      exact faces.chain
    · have same : r.script.lastCondition = s.lastCondition := aside .condition (by decide)
      exact same.trans (faces.known isLater)
    · rw [sees, Run.condition_of_keeps aside (by decide), ← sees₀]
      exact faces.unread undecided
  · refine .inr ⟨?_, fun links => ?_, ?_⟩
    · rw [dispatches_step faces.found, dispatched]
      rfl
    · rw [performed_step faces.found, led, runs]
      exact Link.chosen_cons holds decided l links
    · rintro next others rfl
      obtain ⟨asking, follows, later⟩ := faces.chain.others
      refine ⟨found', ?_, onward _ follows, by simp, fun _ => ?_, fun undecided => ?_⟩
      · rw [program, table]
        exact later
      · rw [remembered, remembers asking]
      · obtain ⟨rfl, passed⟩ := Bool.or_eq_false_iff.mp undecided
        have spares := runs
        rw [passed] at spares
        rw [sees, spared spares, ← sees₀]
        exact faces.unread rfl

/-- Whoever is before a line of a chain follows the chain. What has been decided before is all that
matters of the lines that are past. -/
theorem chain_followed (faces : e.Faces i s holds first decided l rest) {moves : List (Move σ)}
    (succeeds : e.Each (Succeeds i) moves) (alone : e.Each (Unmeddled i) moves) :
    Follows i (l :: rest) (Link.chosen? holds decided) e moves := by
  induction moves generalizing e s first l rest decided with
  | nil =>
    refine fun _ => ⟨rfl, ?_, fun l' here => ?_⟩
    · simp [along, Link.chosen?]
    · cases here
      exact ⟨s, faces.found, faces.near⟩
  | cons m later ih =>
    obtain ⟨succeeds, succeeds'⟩ := succeeds
    obtain ⟨unmeddled, alone'⟩ := alone
    rcases m.step_or i with ⟨wake, rfl⟩ | other
    · cases stepped : Run.step? e.table wake ⟨s, e.world⟩ with
      | none =>
        have stuck := moved_stuck faces.found stepped
        refine Follows.later (dispatches_stuck faces.found stepped) ?_
        rw [stuck] at succeeds' alone' ⊢
        exact ih faces succeeds' alone'
      | some r =>
        rcases faces.step succeeds stepped with ⟨silent, faces'⟩ | ⟨executed, chooses, onward⟩
        · exact Follows.later silent (ih faces' succeeds' alone')
        · apply Follows.executed executed chooses
          cases rest with
          | nil => exact follows_nil (by simp [Link.chosen?])
          | cons next others => exact ih (onward next others rfl) succeeds' alone'
    · exact Follows.later (dispatches_other other)
        (ih (faces.other unmeddled other) succeeds' alone')

end

/-- A chain of conditionals runs exactly one branch. A running script is before the first line of a
chain, its commands succeed at once without stopping it, and nobody interferes. Then it executes the
lines of the chain in order. Of the lines that it has executed at any time, only the branch of the
first one has been run that applies: whose variable existed and was not empty before the chain, as a
local variable or else a special one or else a global, or that asks for none. Until the chain is
over the script is on its way to the next line, and when it is, one branch has been run. -/
theorem chain_runs_one_branch {l : Link} {rest : List Link} (found : e.scripts[i]? = some s)
    (chain : s.program.Chain e.table true (l :: rest)) (near : s.Nears l.index)
    {moves : List (Move σ)} (succeeds : e.Each (Succeeds i) moves)
    (alone : e.Each (Unmeddled i) moves) :
    let links := l :: rest
    let ran := along (dispatches i) e moves
    ran.length ≤ links.length →
      (ran = (links.take ran.length).map Link.index ∧
        along (performed i) e moves =
          (((links.take ran.length).find? (Link.applies (e.holds i))).map Link.branch).toList) ∧
      (∀ next, links[ran.length]? = some next →
        ∃ s', (e.after moves).scripts[i]? = some s' ∧ s'.Nears next.index) ∧
      (ran.length = links.length → ∃ chosen, links.find? (Link.applies (e.holds i)) = some chosen ∧
        along (performed i) e moves = [chosen.branch]) := by
  intro links ran bound
  have faces : e.Faces i s (e.holds i) true false l rest :=
    ⟨found, chain, near, fun _ => rfl, nofun, fun _ => rfl⟩
  have follows := chain_followed faces succeeds alone
  obtain ⟨order, performs, onward⟩ := follows bound
  refine ⟨⟨order, performs⟩, onward, fun complete => ?_⟩
  obtain ⟨chosen, first⟩ := chain.some_applies (e.holds i)
  refine ⟨chosen, first, performs.trans ?_⟩
  rw [show (along (dispatches i) e moves).length = (l :: rest).length from complete,
    List.take_length]
  simp [Link.chosen?, first]

def forked : String :=
  "if_3 echo three\n# or else\nelse if_2 setlocalvariable 3 now\nelse echo nothing"

def forking : Engine MemoryClient :=
  (plain {}).after [.start "forking" forked ["a", "b"], .step 0 .message]

def fork : List Link :=
  [⟨0, some 3, (.echo, "three")⟩, ⟨2, some 2, (.setLocal, "3 now")⟩, ⟨3, none, (.echo, "nothing")⟩]

theorem fork_chain : (Program.parse forked).Chain .standard true fork := by
  have lines : (Program.parse forked).isLiteral = true ∧
      (Program.parse forked).command? 0 = some ⟨1, "if_3 echo three", "if_3", true⟩ ∧
      (Program.parse forked).command? 2 =
        some ⟨3, "else if_2 setlocalvariable 3 now", "else", true⟩ ∧
      (Program.parse forked).command? 3 = some ⟨4, "else echo nothing", "else", true⟩ ∧
      (Program.parse forked).next? 0 = some 2 ∧ (Program.parse forked).next? 2 = some 3 := by
    decide +kernel
  obtain ⟨literal, line₀, line₂, line₃, next₀, next₂⟩ := lines
  have commands : ([("if_3", .ifSet 3), ("if_2", .ifSet 2), ("else", .otherwise), ("echo", .echo),
      ("setlocalvariable", .setLocal)] : List (String × Builtin)).all fun (keyword, command) =>
        (CommandTable.standard.get? keyword).bind Action.builtin? = some command := by
    decide +kernel
  simp only [List.all_cons, List.all_nil, Bool.and_true, Bool.and_eq_true, decide_eq_true_eq]
    at commands
  obtain ⟨if₃, if₂, otherwise, echo, setLocal⟩ := commands
  refine .more rfl ⟨⟨_, line₀, Program.literal_of_command literal line₀, ?_⟩, rfl, rfl⟩ next₀
    (.more rfl ⟨⟨_, line₂, Program.literal_of_command literal line₂, ?_⟩, rfl, rfl⟩ next₂
      (.last rfl ⟨⟨_, line₃, Program.literal_of_command literal line₃, ?_⟩, rfl, rfl⟩))
  · exact ⟨"echo three".toList, CommandTable.reads_of_builtin (by decide +kernel) if₃,
      "three".toList, CommandTable.reads_of_builtin (by decide +kernel) echo, rfl⟩
  · exact ⟨"if_2 setlocalvariable 3 now".toList,
      CommandTable.reads_of_builtin (by decide +kernel) otherwise, "setlocalvariable 3 now".toList,
      CommandTable.reads_of_builtin (by decide +kernel) if₂, "3 now".toList,
      CommandTable.reads_of_builtin (by decide +kernel) setLocal, rfl⟩
  · exact ⟨"echo nothing".toList, CommandTable.reads_of_builtin (by decide +kernel) otherwise,
      "nothing".toList, CommandTable.reads_of_builtin (by decide +kernel) echo, rfl⟩

/-- The branch that is run sets the variable that the first line asks about. -/
theorem chain_runs_one_branch_forking :
    let go := .step 0 .message
    let moves := [go, .publish .prompt, go, .elapse 5, go]
    along (dispatches 0) forking moves = [0, 2, 3] ∧
      along (performed 0) forking moves = [(.setLocal, "3 now")] ∧
      forking.holds 0 3 = false ∧ (forking.after moves).holds 0 3 = true := by
  intro go moves
  have facts : (forking.scripts[0]?).map (fun s : Script =>
        (s.state, s.requestedLabel, s.controls, s.cursor)) =
        some (.running, none, [], some 0) ∧
      along (dispatches 0) forking moves = [0, 2, 3] ∧ forking.holds 0 3 = false ∧
      forking.holds 0 2 = true ∧ (forking.after moves).holds 0 3 = true ∧
      (∀ digit, ((forking.after [go, .publish .prompt, go]).moved (.elapse 5)).holds 0 digit =
        (forking.after [go, .publish .prompt, go]).holds 0 digit) ∧
      (forking.leadsTo? 0 .message).isNone ∧
      ((forking.after [go, .publish .prompt, go, .elapse 5]).leadsTo? 0 .message).isNone ∧
      ((forking.after [go, .publish .prompt]).leadsTo? 0 .message).map (fun led =>
        (led.1.script.state, led.2)) = some (.running, .setLocal, "3 now") := by
    decide +kernel
  obtain ⟨there, dispatched, unheld, held, heldAfter, timeless, first, last, second⟩ := facts
  obtain ⟨s, found, same⟩ := Option.map_eq_some_iff.mp there
  obtain ⟨running, same⟩ := Prod.mk.inj same
  obtain ⟨unasked, same⟩ := Prod.mk.inj same
  obtain ⟨controls, cursor⟩ := Prod.mk.inj same
  have program : s.program = Program.parse forked := by
    have here : (forking.scripts[0]?).map (·.program) = some (Program.parse forked) := rfl
    rw [found] at here
    exact Option.some.inj here
  have ready : s.phase = .ready := by
    have here : (forking.scripts[0]?).map (·.phase) = some .ready := rfl
    rw [found] at here
    exact Option.some.inj here
  have near : s.Nears 0 := .ahead running unasked (by simp [controls]) ready cursor
  have chain : s.program.Chain forking.table true fork := by
    rw [program]
    exact fork_chain
  have own : ∀ e : Engine MemoryClient, Unmeddled 0 e go := fun _ => nofun
  have published : ∀ e : Engine MemoryClient, Unmeddled 0 e (.publish .prompt) :=
    fun _ _ => ⟨rfl, fun _ => rfl⟩
  have waited : Unmeddled 0 (forking.after [go, .publish .prompt, go]) (.elapse 5) :=
    fun _ => ⟨rfl, timeless⟩
  have alone : forking.Each (Unmeddled 0) moves :=
    ⟨own _, published _, own _, waited, own _, trivial⟩
  have succeeds : forking.Each (Succeeds 0) moves := by
    refine ⟨?_, nofun, ?_, nofun, ?_, trivial⟩
    · intro wake same q command arguments led
      obtain ⟨_, rfl⟩ := Move.step.inj same
      rw [led] at first
      cases first
    · intro wake same q command arguments led
      obtain ⟨_, rfl⟩ := Move.step.inj same
      obtain ⟨⟨q', _, _⟩, led', same⟩ := Option.map_eq_some_iff.mp second
      cases led.symm.trans led'
      obtain ⟨running, command⟩ := Prod.mk.inj same
      cases command
      have named : Arguments.named? "3 now" = some ("3", "now") := by decide +kernel
      refine ⟨by simp [Commands.perform, Commands.setLocal, named], ?_⟩
      have kept : (Commands.perform q "3 now" .setLocal).1.script.state = q.script.state :=
        Commands.perform_keeps q "3 now" .setLocal .state (by decide)
      exact kept.trans running
    · intro wake same q command arguments led
      obtain ⟨_, rfl⟩ := Move.step.inj same
      have none := Option.isNone_iff_eq_none.mp last
      cases none.symm.trans led
  obtain ⟨_, _, complete⟩ := chain_runs_one_branch found chain near succeeds alone
    (by rw [dispatched]; decide)
  obtain ⟨chosen, first, performs⟩ := complete (by rw [dispatched]; rfl)
  have link : fork.find? (Link.applies (forking.holds 0)) =
      some ⟨2, some 2, (.setLocal, "3 now")⟩ := by
    simp [fork, Link.applies, unheld, held]
  cases first.symm.trans link
  exact ⟨dispatched, performs, unheld, heldAfter⟩

end Engine

end Questline
