import Questline.Matcher
import Questline.Stream
import Questline.Text.Case
import Questline.Variables

/-! Commands that a client adds to the builtin ones, and the table in which scripts look up both. -/
namespace Questline

/-- What a custom command may ask of the script that runs it. -/
inductive Request where
  | echo (text : String)
  | trace (level : Nat) (text : String)
  | publish (event : GameEvent)
  | goto (label : String)
  | stop
  | setSpecial (name : String) (value : Value)
  /-- Records the locals and what is known about some variables. -/
  | inspect (names : List String)

/-- How a custom command ends once its requests are done. -/
inductive Reaction where
  | done
  | fail (fault : Fault)
  /-- Gives up as if the command had been interrupted from outside. -/
  | giveUp
  /-- Ends the script without any further step of its own. -/
  | crash
  /-- Goes on with the arguments as a command line. -/
  | execute

/-- A custom command is given by what it does with its arguments: some requests, and at most one
line in the end, which is made of the arguments. This is less than a client could do that reads the
variables of the script, asks for one thing depending on how another has gone, or has several lines
executed. Commands of that kind are left out. -/
abbrev Handler := (arguments : String) → List Request × Reaction

inductive Action where
  | builtin (command : Builtin)
  | custom (handler : Handler)

/-- Commands by keyword. Keywords are kept in lower case. -/
structure CommandTable where
  actions : Dict Action

namespace CommandTable

def standard : CommandTable where
  actions := .ofList (Builtin.all.map fun command => (command.keyword, .builtin command))

def get? (t : CommandTable) (name : String) : Option Action := t.actions.get? (Text.lower name)

def contains (t : CommandTable) (name : String) : Bool := (t.get? name).isSome

def register (t : CommandTable) (name : String) (handler : Handler) : CommandTable :=
  ⟨t.actions.insert (Text.lower name) (.custom handler)⟩

def isNameChar (c : Char) : Bool := Text.isAlphanumeric c || c = '_'

/-- Adds a custom command, whose name has to be one word and new. -/
def extend (t : CommandTable) (name : String) (handler : Handler) : Except Fault CommandTable :=
  if (Text.trim name).isEmpty || !name.toList.all isNameChar then
    .error (Fault.ofCause (.commandName name))
  else if t.contains name then .error (Fault.ofCause (.commandReserved name))
  else .ok (t.register name handler)

def extendAll (t : CommandTable) (commands : List (String × Handler)) : Except Fault CommandTable :=
  commands.foldlM (fun t (name, handler) => t.extend name handler) t

def names (t : CommandTable) : List String := t.actions.entries.map (·.1)

end CommandTable

end Questline
