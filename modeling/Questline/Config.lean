import Questline.Json.Reader

/-! How scripts are run, and how that is read from a JSON text. -/
namespace Questline

structure Config where
  /-- Sending a line that starts with this text starts another script and ends the sender. -/
  scriptPrefix : String := "."
  debug : Bool := false
  debugLevel : Nat := 1
  /-- Seconds to wait before each command that talks to the game. -/
  delay : Float := 0
  randomSeed : Option UInt32 := none

namespace Config

def fieldNames : List String := ["scriptPrefix", "debug", "debugLevel", "delay", "randomSeed"]

/-- The value of a field, or a default where the field is absent. -/
def fieldOr {α : Type} (default : α) (read? : Json → Option α) : Option Json → Option α
  | none => some default
  | some value => read? value

/-- A seed, which may be `null` for none. -/
def seed? : Json → Option (Option UInt32)
  | .null => some none
  | value => value.toWord32?.map fun n => some (UInt32.ofNat n)

/-- Every field may be absent. -/
def ofJson? (value : Json) : Option Config := do
  match ← value.record? fieldNames with
  | [scriptPrefix, debug, debugLevel, delay, randomSeed] =>
    return {
      scriptPrefix := ← fieldOr "." Json.toText? scriptPrefix
      debug := ← fieldOr false Json.toBool? debug
      debugLevel := ← fieldOr 1 Json.toWord32? debugLevel
      delay := ← fieldOr 0 Json.toFloat? delay
      randomSeed := ← fieldOr none seed? randomSeed }
  | _ => none

def read? (text : String) : Option Config := (Json.Reader.read? text).bind ofJson?

end Config

end Questline
