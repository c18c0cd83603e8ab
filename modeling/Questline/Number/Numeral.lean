import Questline.Number.Decimal
import Questline.Text.Basic

/-! Reading numerals. The grammar is an optional sign, then either a word for infinity or for the
undefined number, in any letter case, or plain digits with at most one point and an optional
exponent; at least one digit stands beside the point. -/
namespace Questline.Number

open Questline.Text (isPlainDigit lowerPlain)

def digitValue (c : Char) : Nat := c.toNat - '0'.toNat

/-- The number that a list of plain digits writes, continuing from `acc`. -/
def digitsValue (acc : Nat) : List Char → Nat
  | [] => acc
  | c :: rest => digitsValue (10 * acc + digitValue c) rest

def hexValue? (c : Char) : Option Nat :=
  if isPlainDigit c then some (digitValue c)
  else if 'a' ≤ c && c ≤ 'f' then some (c.toNat - 'a'.toNat + 10)
  else if 'A' ≤ c && c ≤ 'F' then some (c.toNat - 'A'.toNat + 10)
  else none

def takeSign : List Char → Bool × List Char
  | '-' :: rest => (true, rest)
  | '+' :: rest => (false, rest)
  | cs => (false, cs)

/-- The exponent part of a numeral, which may be absent but not incomplete. -/
def readExponent? : List Char → Option Int
  | [] => some 0
  | mark :: rest =>
    if mark = 'e' || mark = 'E' then
      let (negative, digits) := takeSign rest
      if digits.isEmpty || !digits.all isPlainDigit then none
      else some (if negative then -(digitsValue 0 digits : Int) else digitsValue 0 digits)
    else none

def readDecimal? (cs : List Char) : Option Decimal := do
  let whole := cs.takeWhile isPlainDigit
  let rest := cs.dropWhile isPlainDigit
  let (fraction, rest) := match rest with
    | '.' :: more => (more.takeWhile isPlainDigit, more.dropWhile isPlainDigit)
    | other => ([], other)
  if whole.isEmpty && fraction.isEmpty then none
  else
    let exponent ← readExponent? rest
    some ⟨digitsValue 0 (whole ++ fraction), exponent - fraction.length⟩

/-- The double that a text writes, without blanks around it. -/
def read? (s : String) : Option Float :=
  let (negative, unsigned) := takeSign s.toList
  let word := lowerPlain (String.ofList unsigned)
  if word = "inf" || word = "infinity" then some (infinity negative)
  else if word = "nan" then some notANumber
  else (readDecimal? unsigned).map (Decimal.toFloat negative)

/-- The natural number that plain digits write; other characters and the empty text are refused. -/
def readNat? (s : String) : Option Nat :=
  let cs := s.toList
  if cs.isEmpty || !cs.all isPlainDigit then none else some (digitsValue 0 cs)

end Questline.Number
