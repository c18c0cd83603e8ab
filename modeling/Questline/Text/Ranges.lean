/-! Sets and maps of characters given by ranges of code points. -/
namespace Questline.Text

/-- A set of code points as closed ranges in ascending order. -/
structure RangeTable where
  ranges : List (Nat × Nat)

/-- Searches the ranges from the first one and gives up at a range that begins above `n`. -/
def RangeTable.search : List (Nat × Nat) → Nat → Bool
  | [], _ => false
  | (first, last) :: rest, n =>
    if n < first then false else if n ≤ last then true else search rest n

def RangeTable.contains (t : RangeTable) (c : Char) : Bool := search t.ranges c.toNat

/-- A set of code points as runs `first, first + stride, …, last` in ascending order. -/
structure RunTable where
  runs : List (Nat × Nat × Nat)

/-- Searches the runs from the first one and gives up at a run that begins above `n`. -/
def RunTable.search : List (Nat × Nat × Nat) → Nat → Bool
  | [], _ => false
  | (first, last, stride) :: rest, n =>
    if n < first then false
    else if n ≤ last then (n - first) % stride == 0
    else search rest n

def RunTable.contains (t : RunTable) (c : Char) : Bool := search t.runs c.toNat

/-- The code points `first, first + stride, …, last`, each of which is moved by the same `shift`. -/
structure ShiftRun where
  first : Nat
  last : Nat
  stride : Nat
  shift : Int

def ShiftRun.holds (r : ShiftRun) (n : Nat) : Bool :=
  r.first ≤ n && n ≤ r.last && (n - r.first) % r.stride == 0

/-- Where the runs, taken in ascending order, move `n`; a code point in no run stays. -/
def shifted : List ShiftRun → Nat → Nat
  | [], n => n
  | r :: rest, n =>
    if n < r.first then n else if r.holds n then ((n : Int) + r.shift).toNat else shifted rest n

/-- The code points that the runs move to `n`. -/
def shiftedTo (runs : List ShiftRun) (n : Nat) : List Nat :=
  runs.filterMap fun r =>
    let origin := ((n : Int) - r.shift).toNat
    if r.holds origin then some origin else none

end Questline.Text
