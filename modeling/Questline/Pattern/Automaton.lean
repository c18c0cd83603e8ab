import Questline.Pattern.Regex

/-! Regular expressions as programs for a machine that reads a text once, and the machine. All ways
to match are followed side by side, in order of preference; of two ways that come to the same state
at the same place only the preferred one goes on. -/
namespace Questline.Pattern

inductive Instruction where
  | accept
  | chars (set : CharSet) (next : Nat)
  | check (words : CharSet) (a : Assertion) (next : Nat)
  | save (slot next : Nat)
  /-- Both ways are open, and the first one is preferred. -/
  | fork (first second : Nat)

abbrev Code := Array Instruction

namespace Code

def emit (code : Code) (i : Instruction) : Nat × Code := (code.size, code.push i)

def forkOn (greedy : Bool) (inside leave : Nat) : Instruction :=
  if greedy then .fork inside leave else .fork leave inside

/-- `count` copies of what `body` compiles, one after the other, in front of `next`. -/
def copies (body : Nat → Code → Nat × Code) : (count next : Nat) → Code → Nat × Code
  | 0, next, code => (next, code)
  | count + 1, next, code =>
    let (entry, code) := body next code
    copies body count entry code

/-- `count` nested optional copies in front of `inner`, each of which may leave to `leave`. -/
def optionals (body : Nat → Code → Nat × Code) (greedy : Bool) (leave : Nat) :
    (count inner : Nat) → Code → Nat × Code
  | 0, inner, code => (inner, code)
  | count + 1, inner, code =>
    let (entry, code) := body inner code
    let (fork, code) := code.emit (forkOn greedy entry leave)
    optionals body greedy leave count fork code

/-- The entry of a loop that goes through `body` at least once, and the place of its fork. -/
def loop (body : Nat → Code → Nat × Code) (greedy : Bool) (next : Nat) (code : Code) : Nat × Code :=
  let (fork, code) := code.emit .accept
  let (entry, code) := body fork code
  (entry, code.set! fork (forkOn greedy entry next))

/-- Adds the code of an expression that goes on at `next`, and gives its entry. -/
def compile : Regex → (next : Nat) → Code → Nat × Code
  | .empty, next, code => (next, code)
  | .chars set, next, code => code.emit (.chars set next)
  | .check words a, next, code => code.emit (.check words a next)
  | .group index r, next, code =>
    let (close, code) := code.emit (.save (2 * index + 1) next)
    let (entry, code) := compile r close code
    code.emit (.save (2 * index) entry)
  | .sequence a b, next, code =>
    let (entry, code) := compile b next code
    compile a entry code
  | .choice a b, next, code =>
    let (first, code) := compile a next code
    let (second, code) := compile b next code
    code.emit (.fork first second)
  | .repeated r least most greedy, next, code =>
    let body := fun next code => compile r next code
    match least, most with
    | 0, none =>
      let (entry, code) := loop body greedy next code
      code.emit (forkOn greedy entry next)
    | least + 1, none =>
      let (entry, code) := loop body greedy next code
      copies body least entry code
    | least, some most =>
      let (entry, code) := optionals body greedy next (most - least) next code
      copies body least entry code

end Code

/-- A compiled pattern. Groups are numbered from zero, which is the whole match. -/
structure Machine where
  code : Code
  start : Nat
  groups : Nat

def Machine.ofRegex (r : Regex) : Machine :=
  let (start, code) := Code.compile (.group 0 r) 0 #[.accept]
  { code, start, groups := r.lastGroup + 1 }

namespace Machine

abbrev Slots := List (Option Nat)

/-- A way to match, standing at an instruction. -/
structure Thread where
  instruction : Nat
  slots : Slots

/-- A place in the text: its index and the characters around it. -/
structure Place where
  index : Nat
  before : Option Char
  after : Option Char

/-- Follows threads through the instructions that read no character. The threads are in order of
preference and so are the results. An instruction is entered once, and adds two threads at most. -/
def follow (m : Machine) (p : Place) :
    (fuel : Nat) → List Thread → (entered : Array Bool) → (found : Array Thread) → Array Thread
  | 0, _, _, found => found
  | _, [], _, found => found
  | fuel + 1, t :: rest, entered, found =>
    if entered.getD t.instruction true then m.follow p fuel rest entered found
    else
      let entered := entered.set! t.instruction true
      match m.code[t.instruction]? with
      | some (.fork first second) =>
        let branches := [{ t with instruction := first }, { t with instruction := second }]
        m.follow p fuel (branches ++ rest) entered found
      | some (.save slot next) =>
        m.follow p fuel (⟨next, t.slots.set slot (some p.index)⟩ :: rest) entered found
      | some (.check words a next) =>
        if a.holds words.contains p.before p.after then
          m.follow p fuel ({ t with instruction := next } :: rest) entered found
        else m.follow p fuel rest entered found
      | some (.chars ..) | some .accept => m.follow p fuel rest entered (found.push t)
      | none => m.follow p fuel rest entered found

/-- Lets each thread read a character, up to the first that has matched. Gives the threads that go
on and the match. -/
def read (m : Machine) (c : Option Char) : List Thread → List Thread × Option Slots
  | [] => ([], none)
  | t :: rest =>
    match m.code[t.instruction]? with
    | some .accept => ([], some t.slots)
    | some (.chars set next) =>
      let (others, hit) := m.read c rest
      match c with
      | some c =>
        if set.contains c then ({ t with instruction := next } :: others, hit) else (others, hit)
      | none => (others, hit)
    | _ => m.read c rest

/-- The threads that stand at a place, ready to read. As long as nothing has matched, one more
thread starts there, after all others. -/
def gather (m : Machine) (threads : List Thread) (best : Option Slots) (p : Place) : List Thread :=
  let fresh : List Thread :=
    if best.isNone then [⟨m.start, List.replicate (2 * m.groups) none⟩] else []
  let threads := threads ++ fresh
  (m.follow p (2 * m.code.size + threads.length + 1) threads
    (Array.replicate m.code.size false) #[]).toList

/-- Runs over the text from a place on. The match of a preferred thread replaces one that was found
before. -/
def run (m : Machine) (threads : List Thread) (best : Option Slots) (index : Nat)
    (before : Option Char) : List Char → Option Slots
  | [] => (m.read none (m.gather threads best ⟨index, before, none⟩)).2.orElse fun _ => best
  | c :: rest =>
    let (threads, hit) := m.read (some c) (m.gather threads best ⟨index, before, some c⟩)
    let best := hit.orElse fun _ => best
    if threads.isEmpty && best.isSome then best else m.run threads best (index + 1) (some c) rest

/-- The text of a group, empty where the group took no part in the match. -/
def groupText (cs : List Char) (slots : Slots) (group : Nat) : String :=
  match slots.getD (2 * group) none, slots.getD (2 * group + 1) none with
  | some first, some last => String.ofList ((cs.drop first).take (last - first))
  | _, _ => ""

/-- The leftmost match in a text, and of the matches there the preferred one: the texts of its
groups, the whole match first. -/
def find? (m : Machine) (text : String) : Option (List String) :=
  let cs := text.toList
  (m.run [] none 0 none cs).map fun slots => (List.range m.groups).map (groupText cs slots)

end Machine

end Questline.Pattern
