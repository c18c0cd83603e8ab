import Questline.Text.Case

/-! Sets of characters as patterns describe them. A set is kept as its description, and membership
is decided by following it, so that no set has to be listed. -/
namespace Questline.Pattern

open Questline.Text

inductive CharSet where
  | ranges (table : RangeTable)
  | runs (table : RunTable)
  | word
  | decimal
  | blank
  | negated (s : CharSet)
  | union (a b : CharSet)
  | intersection (a b : CharSet)
  | difference (a b : CharSet)
  | symmetricDifference (a b : CharSet)
  /-- The characters that equal a member when case is ignored. -/
  | caseless (s : CharSet)

namespace CharSet

def none : CharSet := ranges ⟨[]⟩

def single (c : Char) : CharSet := ranges ⟨[(c.toNat, c.toNat)]⟩

def between (first last : Char) : CharSet := ranges ⟨[(first.toNat, last.toNat)]⟩

def contains : CharSet → Char → Bool
  | ranges table, c => table.contains c
  | runs table, c => table.contains c
  | word, c => isWord c
  | decimal, c => isDecimal c
  | blank, c => isBlank c
  | negated s, c => !s.contains c
  | union a b, c => a.contains c || b.contains c
  | intersection a b, c => a.contains c && b.contains c
  | difference a b, c => a.contains c && !b.contains c
  | symmetricDifference a b, c => a.contains c != b.contains c
  | caseless s, c => (caseOrbit c).any s.contains

def unions (sets : List CharSet) : CharSet := sets.foldr union none

def plain (ranges : List (Nat × Nat)) : CharSet := .ranges ⟨ranges⟩

def plainWord : CharSet := plain [(0x30, 0x39), (0x41, 0x5A), (0x5F, 0x5F), (0x61, 0x7A)]

def plainDecimal : CharSet := plain [(0x30, 0x39)]

def plainBlank : CharSet := plain [(0x09, 0x0D), (0x20, 0x20)]

/-- The classes that are written by name between colons; they hold characters below 128 only. -/
def named? : String → Option CharSet
  | "alnum" => some (plain [(0x30, 0x39), (0x41, 0x5A), (0x61, 0x7A)])
  | "alpha" => some (plain [(0x41, 0x5A), (0x61, 0x7A)])
  | "ascii" => some (plain [(0x00, 0x7F)])
  | "blank" => some (plain [(0x09, 0x09), (0x20, 0x20)])
  | "cntrl" => some (plain [(0x00, 0x1F), (0x7F, 0x7F)])
  | "digit" => some plainDecimal
  | "graph" => some (plain [(0x21, 0x7E)])
  | "lower" => some (plain [(0x61, 0x7A)])
  | "print" => some (plain [(0x20, 0x7E)])
  | "punct" => some (plain [(0x21, 0x2F), (0x3A, 0x40), (0x5B, 0x60), (0x7B, 0x7E)])
  | "space" => some plainBlank
  | "upper" => some (plain [(0x41, 0x5A)])
  | "word" => some plainWord
  | "xdigit" => some (plain [(0x30, 0x39), (0x41, 0x46), (0x61, 0x66)])
  | _ => Option.none

/-- How much a test for membership adds to the size of a compiled pattern. -/
def weight : CharSet → Nat
  | ranges table => 1 + 2 * table.ranges.length
  | runs table => 1 + 2 * table.runs.length
  | word => 800
  | decimal => 200
  | blank => 20
  | negated s => s.weight + 10
  | union a b | intersection a b | difference a b | symmetricDifference a b => a.weight + b.weight
  | caseless s => 2 * s.weight

end CharSet

end Questline.Pattern
