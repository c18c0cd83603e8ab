import Questline.Pattern.CharSet

/-! Regular expressions as trees, with all flags already applied. -/
namespace Questline.Pattern

/-- Conditions on the place between two characters. -/
inductive Assertion where
  | textStart
  | textEnd
  | lineStart
  | lineEnd
  | lineStartReturn
  | lineEndReturn
  | boundary
  | noBoundary
  | wordStart
  | wordEnd
  | wordStartHalf
  | wordEndHalf
deriving Repr, DecidableEq

/-- Whether an assertion holds between the character before and the character after a place, where
`isWordChar` says what a word is made of. -/
def Assertion.holds (isWordChar : Char → Bool) (before after : Option Char) : Assertion → Bool
  | textStart => before.isNone
  | textEnd => after.isNone
  | lineStart => before.isNone || before == some '\n'
  | lineEnd => after.isNone || after == some '\n'
  | lineStartReturn =>
    before.isNone || before == some '\n' || (before == some '\r' && after != some '\n')
  | lineEndReturn =>
    after.isNone || after == some '\r' || (after == some '\n' && before != some '\r')
  | boundary => before.any isWordChar != after.any isWordChar
  | noBoundary => before.any isWordChar == after.any isWordChar
  | wordStart => !before.any isWordChar && after.any isWordChar
  | wordEnd => before.any isWordChar && !after.any isWordChar
  | wordStartHalf => !before.any isWordChar
  | wordEndHalf => !after.any isWordChar

inductive Regex where
  | empty
  | chars (set : CharSet)
  | check (words : CharSet) (a : Assertion)
  | group (index : Nat) (r : Regex)
  | sequence (a b : Regex)
  /-- `a` is preferred to `b`. -/
  | choice (a b : Regex)
  /-- From `least` to `most` times, as often as possible when `greedy` and else as seldom. -/
  | repeated (r : Regex) (least : Nat) (most : Option Nat) (greedy : Bool)

namespace Regex

def isWidthless : Regex → Bool
  | empty | check .. => true
  | chars _ => false
  | group _ r => r.isWidthless
  | sequence a b | choice a b => a.isWidthless && b.isWidthless
  | repeated r .. => r.isWidthless

/-- A repetition in its simplest form. One that never happens is empty, with the groups inside it;
one of an expression without width need not happen more than once. -/
def repeating (r : Regex) (least : Nat) (most : Option Nat) (greedy : Bool) : Regex :=
  let least' := if r.isWidthless then min least 1 else least
  let most' := if r.isWidthless then some (min (most.getD 1) 1) else most
  match least', most' with
  | _, some 0 => empty
  | 1, some 1 => r
  | low, high => repeated r low high greedy

def lastGroup : Regex → Nat
  | empty | chars _ | check .. => 0
  | group index r => max index r.lastGroup
  | sequence a b | choice a b => max a.lastGroup b.lastGroup
  | repeated r .. => r.lastGroup

/-- The size of the expression once its repetitions are written out. -/
def weight : Regex → Nat
  | empty => 1
  | check .. => 1
  | chars set => set.weight
  | group _ r => r.weight + 2
  | sequence a b | choice a b => a.weight + b.weight + 1
  | repeated r least most _ => (r.weight + 1) * max 1 (max least (most.getD (least + 1)))

end Regex

end Questline.Pattern
