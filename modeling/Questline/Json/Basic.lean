import Questline.Number.Numeral

/-! JSON texts: their values, and how strings and numbers are written. -/
namespace Questline

namespace Json

structure Numeral where
  negative : Bool
  whole : List Char
  fraction : Option (List Char)
  exponent : Option Int
deriving Repr, DecidableEq

end Json

/-- A JSON value. A string whose escapes do not make up characters has no text; it can be skipped,
but not read. -/
inductive Json where
  | null
  | bool (b : Bool)
  | number (n : Json.Numeral)
  | string (text : Option String)
  | array (items : List Json)
  | object (fields : List (Option String × Json))

namespace Json

/-! ### Strings -/

def hexDigit (n : Nat) : Char := (Nat.toDigits 16 n).headD '0'

/-- A character inside a string. -/
def escapeChar (c : Char) : List Char :=
  match c with
  | '"' => ['\\', '"']
  | '\\' => ['\\', '\\']
  | '\x08' => ['\\', 'b']
  | '\x09' => ['\\', 't']
  | '\x0a' => ['\\', 'n']
  | '\x0c' => ['\\', 'f']
  | '\x0d' => ['\\', 'r']
  | c =>
    if c.toNat < 0x20 then
      ['\\', 'u', '0', '0', hexDigit (c.toNat / 16), hexDigit (c.toNat % 16)]
    else [c]

/-- A string between double quotes. Only what has to be escaped is. -/
def quote (s : String) : String :=
  String.ofList ('"' :: s.toList.flatMap escapeChar ++ ['"'])

/-! ### Numbers -/

namespace Numeral

/-- A number without fraction and exponent. A negative zero counts as a fraction. -/
def toInt? (n : Numeral) : Option Int :=
  match n.fraction, n.exponent with
  | none, none =>
    let value := Number.digitsValue 0 n.whole
    if n.negative then if value = 0 then none else some (-value) else some value
  | _, _ => none

def wordLimit : Nat := Nat.pow 2 64

/-- The digits of the whole part that fit into 64 bits, and how many follow them. -/
def wholeDigits (value skipped : Nat) : List Char → Nat × Nat
  | [] => (value, skipped)
  | c :: rest =>
    let next := 10 * value + Number.digitValue c
    if skipped = 0 && next < wordLimit then wholeDigits next 0 rest
    else wholeDigits value (skipped + 1) rest

/-- The digits of the fraction that still fit into 64 bits, and how many they are. -/
def fractionDigits (value taken : Nat) : List Char → Nat × Nat
  | [] => (value, taken)
  | c :: rest =>
    let next := 10 * value + Number.digitValue c
    if next < wordLimit then fractionDigits next (taken + 1) rest else (value, taken)

def powerOfTen (n : Nat) : Float := Number.nearest false (Nat.pow 10 n) 1

def maxPower : Nat := 308

/-- Scales a number by a power of ten, in one operation where the power is a double. A number beyond
the greatest double is refused. -/
def scale : (fuel : Nat) → Float → Int → Option Float
  | 0, x, _ => some x
  | fuel + 1, x, exponent =>
    if exponent.natAbs ≤ maxPower then
      let power := powerOfTen exponent.natAbs
      let scaled := if 0 ≤ exponent then x * power else x / power
      if Number.isFinite scaled then some scaled else none
    else if x == 0 then some x
    else if 0 ≤ exponent then none
    else scale fuel (x / powerOfTen maxPower) (exponent + maxPower)

/-- A number as a double. Digits beyond 64 bits do not count, and the rest is scaled by a power of
ten, so that a long fraction may miss the nearest double. -/
def toFloat? (n : Numeral) : Option Float :=
  let (value, skipped) := wholeDigits 0 0 n.whole
  let (value, taken) := fractionDigits value 0 (n.fraction.getD [])
  let exponent := (n.exponent.getD 0) + skipped - taken
  (scale 5 (Number.nearest false value 1) exponent).map fun x => if n.negative then -x else x

end Numeral

/-! ### Reading values as what they should be -/

def toBool? : Json → Option Bool
  | bool b => some b
  | _ => none

def toText? : Json → Option String
  | string text => text
  | _ => none

def toFloat? : Json → Option Float
  | number n => n.toFloat?
  | _ => none

def toWord32? : Json → Option Nat
  | number n =>
    n.toInt?.bind fun i => if 0 ≤ i && i.toNat < Nat.pow 2 32 then some i.toNat else none
  | _ => none

/-- An object whose values are all texts. Of fields with one name the last one counts. -/
def toTexts? : Json → Option (List (String × String))
  | object fields => fields.mapM fun (name, value) => return (← name, ← value.toText?)
  | _ => none

/-- The values of a record with the given field names. The record is written as an object, in which
other fields are skipped and none of these stands twice, or as an array of the values in order. -/
def record? (names : List String) : Json → Option (List (Option Json))
  | object fields => do
    let fields ← fields.mapM fun (name, value) => name.map (·, value)
    names.mapM fun name =>
      match fields.filter fun f => f.1 = name with
      | [] => some none
      | [(_, value)] => some (some value)
      | _ => none
  | array items =>
    if items.length ≤ names.length then
      some (items.map some ++ List.replicate (names.length - items.length) none)
    else none
  | _ => none

end Json

end Questline
