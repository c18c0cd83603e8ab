import Questline.Globals
import Questline.Timer
import Questline.Value

/-! The variables of a script. Special variables and globals answer to one name space, in which the
special ones come first; local variables are apart from them and belong to the subroutine that is
running. -/
namespace Questline

/-- What the game client itself keeps up to date. -/
inductive LiveValue where
  | health
  | mana
  | fatigue
  | spirit
  | roundTime
  | monsterCount
  | leftHand
  | rightHand
  | spell
  | roomDescription
  | roomExits
  | roomPlayers
  | roomObjects
  | roomTitle
  | lastCommand
deriving Repr, DecidableEq

namespace LiveValue

def all : List LiveValue :=
  [health, mana, fatigue, spirit, roundTime, monsterCount, leftHand, rightHand, spell,
    roomDescription, roomExits, roomPlayers, roomObjects, roomTitle, lastCommand]

def name : LiveValue → String
  | health => "health"
  | mana => "mana"
  | fatigue => "fatigue"
  | spirit => "spirit"
  | roundTime => "rt"
  | monsterCount => "monstercount"
  | leftHand => "lhand"
  | rightHand => "rhand"
  | spell => "spell"
  | roomDescription => "roomdesc"
  | roomExits => "roomexits"
  | roomPlayers => "roomplayers"
  | roomObjects => "roomobjects"
  | roomTitle => "roomtitle"
  | lastCommand => "lastcommand"

def isNumeric : LiveValue → Bool
  | health | mana | fatigue | spirit | roundTime | monsterCount => true
  | _ => false

def ofName? (name : String) : Option LiveValue := all.find? fun key => key.name = name

/-- What scripts read where the client has no value. -/
def unset (key : LiveValue) : Value := if key.isNumeric then .number 0 else .empty

end LiveValue

inductive Special where
  | value (v : Value)
  | timer (t : Timer)
  | live (key : LiveValue)

/-- What reading a variable depends on beside the script itself. -/
structure Surroundings where
  globals : Globals
  live : LiveValue → Option Value
  now : Nat

abbrev Locals := Dict Value

structure Variables where
  specials : Dict Special
  locals : Locals := .empty

namespace Variables

/-- A new script has the live values and no local variables. -/
def initial : Variables where
  specials := .ofList (LiveValue.all.map fun key => (key.name, .live key))

variable (v : Variables) (around : Surroundings)

def readSpecial : Special → Value
  | .value value => value
  | .timer timer => .number (Float.ofNat (timer.seconds around.now))
  | .live key => (around.live key).getD key.unset

/-- A special variable or, failing that, a global. -/
def get? (name : String) : Option Value :=
  match v.specials.get? name with
  | some special => some (readSpecial around special)
  | none => (around.globals.get? name).map .text

/-- A local variable or, failing that, what `get?` finds. -/
def lookup? (name : String) : Option Value :=
  match v.locals.get? name with
  | some value => some value
  | none => v.get? around name

def isSpecial (name : String) : Bool := v.specials.contains name

def exists? (globals : Globals) (name : String) : Bool :=
  v.specials.contains name || globals.contains name

def setLocal (name : String) (value : Value) : Variables :=
  { v with locals := v.locals.insert name value }

def deleteLocal (name : String) : Variables := { v with locals := v.locals.erase name }

/-- Sets a global, which must not be the name of a special variable. -/
def setGlobal (globals : Globals) (name : String) (value : Value) : Except Fault Globals :=
  if v.specials.contains name then .error (Fault.ofCause (.specialConflict name))
  else .ok (globals.set name value.display)

/-- Makes a name special. It has one home only, so a global of that name is removed; the caller
passes the globals on through `Globals.remove`. -/
def setSpecial (name : String) (special : Special) : Variables :=
  { v with specials := v.specials.insert name special }

/-- Forgets a special variable unless the client owns it. -/
def deleteSpecial (name : String) : Variables :=
  match v.specials.get? name with
  | some (.live _) | none => v
  | some _ => { v with specials := v.specials.erase name }

def ownsSpecial (name : String) : Bool :=
  match v.specials.get? name with
  | some (.live _) | none => false
  | some _ => true

def timer? (name : String) : Option Timer :=
  match v.specials.get? name with
  | some (.timer t) => some t
  | _ => none

end Variables

/-! ### Subroutines -/

/-- What a subroutine call remembers: the line index to go on from and the caller's locals. -/
structure Frame where
  resume : Nat
  locals : Locals

/-- The locals of a subroutine: those of the caller, with `0` set to the argument text and `1`, `2`,
… to its words. -/
def subroutineLocals (caller : Locals) (arguments : String) : Locals :=
  (Text.words arguments).zipIdx.foldl (fun d (word, i) => d.insert (toString (i + 1)) (.text word))
    (caller.insert "0" (.text (Text.trim arguments)))

/-- The innermost frame and the frames around it. -/
def popFrame : List Frame → Except Fault (Frame × List Frame)
  | [] => .error (Fault.ofCause .returnOutside)
  | frame :: rest => .ok (frame, rest)

end Questline
