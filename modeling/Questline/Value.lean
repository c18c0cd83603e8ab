import Questline.Fault
import Questline.Number.Numeral

/-! The values of script variables. -/
namespace Questline

inductive Value where
  | number (x : Float)
  | text (s : String)

namespace Value

def display : Value → String
  | number x => Number.text x
  | text s => s

def asText? : Value → Option String
  | number _ => none
  | text s => some s

/-- The value as a number: a text has to be a numeral, with blanks around it at most. -/
def toNumber : Value → Except Fault Float
  | number x => .ok x
  | text s =>
    match Number.read? (Text.trim s) with
    | some x => .ok x
    | none => .error (Fault.ofCause (.notNumber s))

/-- Only the empty text is empty. -/
def isEmpty : Value → Bool
  | number _ => false
  | text s => s.isEmpty

def typeName : Value → String
  | number _ => "number"
  | text _ => "string"

def empty : Value := text ""

end Value

end Questline
