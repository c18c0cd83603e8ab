import Questline.Json.Basic

/-! Reading JSON texts. -/
namespace Questline.Json.Reader

open Questline.Number (hexValue?)
open Questline.Text (isPlainDigit)

def skipBlanks (cs : List Char) : List Char :=
  cs.dropWhile fun c => c = ' ' || c = '\n' || c = '\t' || c = '\r'

/-! ### Strings -/

def hex4? (a b c d : Char) : Option Nat := do
  return (((← hexValue? a) * 16 + (← hexValue? b)) * 16 + (← hexValue? c)) * 16 + (← hexValue? d)

/-- What stands in a string: a character, or the number of an escape, two of which may make up one
character. -/
inductive Unit16 where
  | char (c : Char)
  | escaped (n : Nat)

/-- The units of a string up to its closing quote, and what follows. -/
def units? : List Char → Option (List Unit16 × List Char)
  | [] => none
  | '"' :: rest => some ([], rest)
  | '\\' :: 'u' :: a :: b :: c :: d :: rest =>
    match hex4? a b c d, units? rest with
    | some n, some (us, rest) => some (.escaped n :: us, rest)
    | _, _ => none
  | '\\' :: c :: rest =>
    let char? := match c with
      | '"' => some '"'
      | '\\' => some '\\'
      | '/' => some '/'
      | 'b' => some '\x08'
      | 'f' => some '\x0c'
      | 'n' => some '\n'
      | 'r' => some '\r'
      | 't' => some '\t'
      | _ => none
    match char?, units? rest with
    | some c, some (us, rest) => some (.char c :: us, rest)
    | _, _ => none
  | c :: rest =>
    if c.toNat < 0x20 || c = '\\' then none
    else (units? rest).map fun (us, rest) => (.char c :: us, rest)

def isLead (n : Nat) : Bool := 0xD800 ≤ n && n < 0xDC00

def isTrail (n : Nat) : Bool := 0xDC00 ≤ n && n < 0xE000

/-- The characters that units make up. -/
def chars? : List Unit16 → Option (List Char)
  | [] => some []
  | .char c :: rest => (chars? rest).map (c :: ·)
  | .escaped n :: .escaped m :: rest =>
    if isLead n then
      if isTrail m then
        (chars? rest).map (Char.ofNat (0x10000 + (n - 0xD800) * 0x400 + (m - 0xDC00)) :: ·)
      else none
    else if isTrail n then none
    else (chars? (.escaped m :: rest)).map (Char.ofNat n :: ·)
  | .escaped n :: rest =>
    if isLead n || isTrail n then none else (chars? rest).map (Char.ofNat n :: ·)

/-- A string after its opening quote. -/
def string? (cs : List Char) : Option (Option String × List Char) :=
  (units? cs).map fun (us, rest) => ((chars? us).map String.ofList, rest)

/-! ### Numbers -/

def exponent? (cs : List Char) : Option (Int × List Char) :=
  let (negative, cs) := match cs with
    | '-' :: rest => (true, rest)
    | '+' :: rest => (false, rest)
    | _ => (false, cs)
  let digits := cs.takeWhile isPlainDigit
  if digits.isEmpty then none
  else
    let value : Int := Number.digitsValue 0 digits
    some (if negative then -value else value, cs.dropWhile isPlainDigit)

/-- A number after its sign. There is no zero in front of other digits. -/
def unsigned? (negative : Bool) (cs : List Char) : Option (Numeral × List Char) := do
  let whole := cs.takeWhile isPlainDigit
  if whole.isEmpty || (whole.head? = some '0' && 1 < whole.length) then none
  else
    let rest := cs.dropWhile isPlainDigit
    let (fraction, rest) ← match rest with
      | '.' :: more =>
        let digits := more.takeWhile isPlainDigit
        if digits.isEmpty then none else some (some digits, more.dropWhile isPlainDigit)
      | _ => some (none, rest)
    match rest with
    | 'e' :: more | 'E' :: more => do
      let (exponent, rest) ← exponent? more
      return (⟨negative, whole, fraction, some exponent⟩, rest)
    | _ => return (⟨negative, whole, fraction, none⟩, rest)

def number? : List Char → Option (Numeral × List Char)
  | '-' :: rest => unsigned? true rest
  | cs => unsigned? false cs

/-! ### Values -/

mutual

/-- A value, with blanks in front of it. -/
def value? : (fuel : Nat) → List Char → Option (Json × List Char)
  | 0, _ => none
  | fuel + 1, cs =>
    match skipBlanks cs with
    | 'n' :: 'u' :: 'l' :: 'l' :: rest => some (.null, rest)
    | 't' :: 'r' :: 'u' :: 'e' :: rest => some (.bool true, rest)
    | 'f' :: 'a' :: 'l' :: 's' :: 'e' :: rest => some (.bool false, rest)
    | '"' :: rest => (string? rest).map fun (text, rest) => (.string text, rest)
    | '[' :: rest =>
      match skipBlanks rest with
      | ']' :: rest => some (.array [], rest)
      | more => (items? fuel more).map fun (items, rest) => (.array items, rest)
    | '{' :: rest =>
      match skipBlanks rest with
      | '}' :: rest => some (.object [], rest)
      | more => (fields? fuel more).map fun (fields, rest) => (.object fields, rest)
    | more => (number? more).map fun (n, rest) => (.number n, rest)

/-- The items of an array, of which there is at least one more. -/
def items? : (fuel : Nat) → List Char → Option (List Json × List Char)
  | 0, _ => none
  | fuel + 1, cs =>
    match value? fuel cs with
    | none => none
    | some (item, rest) =>
      match skipBlanks rest with
      | ']' :: rest => some ([item], rest)
      | ',' :: rest => (items? fuel rest).map fun (items, rest) => (item :: items, rest)
      | _ => none

/-- The fields of an object, of which there is at least one more. -/
def fields? : (fuel : Nat) → List Char → Option (List (Option String × Json) × List Char)
  | 0, _ => none
  | fuel + 1, cs =>
    match skipBlanks cs with
    | '"' :: rest =>
      match string? rest with
      | none => none
      | some (name, rest) =>
        match skipBlanks rest with
        | ':' :: rest =>
          match value? fuel rest with
          | none => none
          | some (value, rest) =>
            match skipBlanks rest with
            | '}' :: rest => some ([(name, value)], rest)
            | ',' :: rest =>
              (fields? fuel rest).map fun (fields, rest) => ((name, value) :: fields, rest)
            | _ => none
        | _ => none
    | _ => none

end

/-- The value of a text that holds nothing else. A value has at least as many characters as there
are values and lists of values in it, so the fuel suffices. -/
def read? (s : String) : Option Json :=
  let cs := s.toList
  match value? (2 * cs.length + 2) cs with
  | some (value, rest) => if (skipBlanks rest).isEmpty then some value else none
  | none => none

end Questline.Json.Reader
