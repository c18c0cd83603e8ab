import Questline.Fault
import Questline.Pattern.Automaton
import Questline.Pattern.Reader

/-! What scripts look for in game output. -/
namespace Questline

/-- A fixed text that has to occur in a line, or a regular expression. -/
inductive Matcher where
  | text (part : String)
  | pattern (machine : Pattern.Machine)

namespace Matcher

def sizeLimit : Nat := 400000

def ofPattern (pattern : String) (ignoreCase : Bool) : Except Fault Matcher :=
  match Pattern.Reader.read? pattern ignoreCase with
  | none => .error (Fault.ofCause (.badPattern pattern))
  | some regex =>
    if sizeLimit < regex.weight then .error (Fault.ofCause (.hugePattern pattern))
    else .ok (.pattern (Pattern.Machine.ofRegex regex))

/-- The groups of the first match in a line. A fixed text has no groups. -/
def find? : Matcher → String → Option (List String)
  | text part, line => if Text.occurs part line then some [] else none
  | pattern machine, line => machine.find? line

def isPattern : Matcher → Bool
  | text _ => false
  | pattern _ => true

end Matcher

/-- A matcher with the label to go to when it finds a line. -/
structure PendingMatch where
  matcher : Matcher
  label : String

/-- A line was found. There are groups for a pattern only. -/
structure Hit where
  label : String
  groups : Option (List String)
deriving Repr, DecidableEq

def PendingMatch.hit? (p : PendingMatch) (line : String) : Option Hit :=
  (p.matcher.find? line).map fun groups =>
    { label := p.label, groups := if p.matcher.isPattern then some groups else none }

/-- The hit of the matcher that was registered first among those that find the line. -/
def firstHit? (pending : List PendingMatch) (line : String) : Option Hit :=
  pending.findSome? fun p => p.hit? line

end Questline
