import Questline.Fault
import Questline.Label

/-! Programs: the commands and labels of a script text, line by line. Blank lines, comments and
label lines hold no command, but keep their index, so that line numbers stay those of the text. -/
namespace Questline

/-- One command line. An instant command does not wait for round-time. -/
structure Command where
  lineNumber : Nat
  text : String
  keyword : String
  instant : Bool
deriving Repr, DecidableEq

namespace Command

open Text

/-- The keyword of a line, in lower case: its first characters as far as they form a word. -/
def keywordOf (line : String) : String :=
  lower (String.ofList ((trimChars line.toList).takeWhile isWord))

/-- What follows a conditional at the start of a line. The conditionals are recognised in any letter
case, and the digit may be one of any script. -/
def afterConditional? : List Char → Option (List Char)
  | c₀ :: c₁ :: c₂ :: c₃ :: blank :: rest =>
    if !isBlank blank then none
    else
      let conditional :=
        (foldChar c₀ = 'i' && foldChar c₁ = 'f' && c₂ = '_' && isDecimal c₃) ||
          (foldChar c₀ = 'e' && foldChar c₁ = 'l' && foldChar c₂ = 's' && foldChar c₃ = 'e')
      if conditional then some (trimChars rest) else none
  | _ => none

theorem length_dropWhile_le {α : Type} (p : α → Bool) (l : List α) :
    (l.dropWhile p).length ≤ l.length :=
  (List.dropWhile_sublist p).length_le

theorem length_trimChars_le (cs : List Char) : (trimChars cs).length ≤ cs.length := by
  have h₁ := length_dropWhile_le isBlank cs
  have h₂ := length_dropWhile_le isBlank (cs.dropWhile isBlank).reverse
  simp only [List.length_reverse] at h₂
  simp only [trimChars, trimEndChars, List.length_reverse]
  omega

theorem length_lt_of_afterConditional? {cs rest : List Char}
    (h : afterConditional? cs = some rest) : rest.length < cs.length := by
  unfold afterConditional? at h
  split at h
  · next tail =>
    have := length_trimChars_le tail
    grind
  · simp at h

def innerKeyword (cs : List Char) : String :=
  match _found : afterConditional? cs with
  | some rest => innerKeyword rest
  | none => keywordOf (String.ofList cs)
termination_by cs.length
decreasing_by exact length_lt_of_afterConditional? _found

def ofLine (index : Nat) (line : String) : Command where
  lineNumber := index + 1
  text := line
  keyword := keywordOf line
  instant := !(Builtin.throttled.map Builtin.keyword).contains (innerKeyword line.toList)

end Command

inductive Line where
  | nothing
  | label (name : String)
  | command (c : Command)
deriving Repr, DecidableEq

namespace Line

def isLabelChar (c : Char) : Bool :=
  ('a' ≤ c && c ≤ 'z') || ('A' ≤ c && c ≤ 'Z') || ('0' ≤ c && c ≤ '9') ||
    c = '_' || c = '.' || c = '-'

/-- The name on a label line: label characters, at least one, and then a colon that ends the line.
-/
def labelName? (cs : List Char) : Option String :=
  let name := cs.takeWhile isLabelChar
  if !name.isEmpty && cs.dropWhile isLabelChar = [':'] then some (String.ofList name) else none

def read (index : Nat) (raw : String) : Line :=
  let cs := Text.trimChars raw.toList
  let isComment := (Text.afterStart? ['#'] cs).isSome || (Text.afterStart? ['/', '/'] cs).isSome
  if cs.isEmpty || isComment then nothing
  else
    match labelName? cs with
    | some name => label name
    | none => command (Command.ofLine index (String.ofList cs))

def command? : Line → Option Command
  | command c => some c
  | _ => none

end Line

structure Program where
  /-- One entry for each line of the text. -/
  commands : List (Option Command)
  labels : LabelTable
  warnings : List Fault
deriving Repr

namespace Program

/-- The labels and warnings collected so far, with those of one more line. -/
def declare (found : LabelTable × List Fault) (index : Nat) : Line → LabelTable × List Fault
  | .label name =>
    if found.1.contains name then
      (found.1, found.2 ++ [(Fault.ofCause (.duplicateLabel name)).atLine (index + 1)])
    else (found.1.insert name index, found.2)
  | _ => found

/-- The labels and warnings of the lines from `index` on, added to those found before. -/
def declareAll (found : LabelTable × List Fault) (index : Nat) :
    List Line → LabelTable × List Fault
  | [] => found
  | line :: rest => declareAll (declare found index line) (index + 1) rest

def ofLines (lines : List Line) : Program :=
  let (labels, warnings) := declareAll (.empty, []) 0 lines
  { commands := lines.map Line.command?, labels, warnings }

def parse (source : String) : Program := ofLines ((Text.lines source).mapIdx Line.read)

def size (p : Program) : Nat := p.commands.length

def command? (p : Program) (index : Nat) : Option Command := (p.commands[index]?).join

def commandCount (p : Program) : Nat := p.commands.countP Option.isSome

/-! ### Jumps -/

def firstAt? (p : Program) (index : Nat) : Option Nat :=
  ((p.commands.drop index).findIdx? Option.isSome).map (· + index)

def next? (p : Program) (index : Nat) : Option Nat := p.firstAt? (index + 1)

/-- Where a jump leads. There is no line when no command follows the label; `fallback` tells that
the label of the error handler stood in for an unknown one. -/
structure JumpTarget where
  line : Option Nat
  fallback : Bool
deriving Repr, DecidableEq

/-- The label that unknown labels lead to, where a script declares it. -/
def errorLabel : String := "labelerror"

def resolve (p : Program) (label : String) : Except Fault JumpTarget :=
  match p.labels.get? label with
  | some index => .ok ⟨p.firstAt? index, false⟩
  | none =>
    match p.labels.get? errorLabel with
    | some index => .ok ⟨p.firstAt? index, true⟩
    | none => .error (Fault.ofCause (.labelUndefined label))

end Program

end Questline
