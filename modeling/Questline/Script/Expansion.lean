import Questline.Text.Basic
import Questline.Variables

/-! Variable references in command lines. A reference is `%name%`, `%` and a digit, or `$name`. The
first two look at locals before anything else, the last one never does. A reference to a variable
that does not exist is left as it is written. -/
namespace Questline

open Text

/-- A command line cut at its references. -/
inductive Piece where
  | plain (c : Char)
  /-- A reference that finds locals. -/
  | wide (name : List Char) (written : List Char)
  /-- A reference that does not. -/
  | shared (name : List Char) (written : List Char)
deriving Repr, DecidableEq

namespace Piece

/-- The piece at the start of a text and what follows it. -/
def first (c : Char) (rest : List Char) : Piece × List Char :=
  let name := rest.takeWhile isWord
  let after := rest.dropWhile isWord
  if c = '%' then
    match name, after with
    | d :: name, '%' :: after => (wide (d :: name) ('%' :: d :: name ++ ['%']), after)
    | d :: name, after =>
      if isDecimal d then (wide [d] ['%', d], name ++ after) else (plain c, rest)
    | [], _ => (plain c, rest)
  else if c = '$' then
    match name with
    | [] => (plain c, rest)
    | _ => (shared name ('$' :: name), after)
  else (plain c, rest)

theorem length_first_le (c : Char) (rest : List Char) : (first c rest).2.length ≤ rest.length := by
  have whole : (rest.takeWhile isWord).length + (rest.dropWhile isWord).length = rest.length := by
    rw [← List.length_append, List.takeWhile_append_dropWhile]
  unfold first
  grind

def all : List Char → List Piece
  | [] => []
  | c :: rest => (first c rest).1 :: all (first c rest).2
termination_by cs => cs.length
decreasing_by exact Nat.lt_succ_of_le (length_first_le c rest)

def expand (vars : Variables) (around : Surroundings) : Piece → List Char
  | plain c => [c]
  | wide name written =>
    ((vars.lookup? around (String.ofList name)).map fun v => v.display.toList).getD written
  | shared name written =>
    ((vars.get? around (String.ofList name)).map fun v => v.display.toList).getD written

end Piece

/-- Replaces the references in a text. Values are not looked at again. -/
def expand (vars : Variables) (around : Surroundings) (text : String) : String :=
  String.ofList ((Piece.all text.toList).flatMap (Piece.expand vars around))

end Questline
