import Questline.Disk
import Questline.Globals
import Questline.Json.Reader

/-! Global variables in a file. The file is a JSON text with the version of its format and the
variables in ascending order of their names. It is written anew whenever a variable changes. -/
namespace Questline.GlobalsFile

def schema : String := "wsl-globals.v1"

def renderVariable (entry : String × String) : String :=
  "\n    " ++ Json.quote entry.1 ++ ": " ++ Json.quote entry.2

def renderVariables (d : Dict String) : String :=
  if d.isEmpty then "\x7b\x7d"
  else "\x7b" ++ ",".intercalate (d.entries.map renderVariable) ++ "\n  \x7d"

def render (d : Dict String) : String :=
  "\x7b\n  \"schemaVersion\": " ++ Json.quote schema ++ ",\n  \"variables\": " ++
    renderVariables d ++ "\n\x7d"

def fieldNames : List String := ["schemaVersion", "variables"]

/-- The version and the variables in a text. -/
def parse? (text : String) : Option (String × Dict String) := do
  match ← (← Json.Reader.read? text).record? fieldNames with
  | [some version, some values] => return (← version.toText?, .ofList (← values.toTexts?))
  | _ => none

/-- The variables in a file. A file that does not exist holds none. -/
def load (d : Disk) (p : Path) : Except Fault (Dict String) :=
  if !d.exists? p then .ok .empty
  else
    match d.readText p with
    | .error e => .error (Fault.ofCause (.globalsUnreadable e))
    | .ok text =>
      match parse? text with
      | none => .error (Fault.ofCause .globalsInvalid)
      | some (version, values) =>
        if version = schema then .ok values else .error (Fault.ofCause (.globalsSchema version))

/-- Writes the variables. A file that cannot be written is left as it is. -/
def save (d : Disk) (p : Path) (values : Dict String) : Disk :=
  match d.write p (Text.Utf8.encode (render values)) with
  | .ok d => d
  | .error _ => d

end Questline.GlobalsFile

namespace Questline

/-- Global variables with the file that holds them. -/
structure FileStore where
  path : Path
  globals : Globals

namespace FileStore

def load (d : Disk) (path : Path) : Except Fault FileStore := do
  return { path, globals := { values := ← GlobalsFile.load d path } }

/-- Takes over changed globals. The file is written unless they are the ones that were there. -/
def update (s : FileStore) (d : Disk) (globals : Globals) : FileStore × Disk :=
  ({ s with globals },
    if globals.revision = s.globals.revision then d else GlobalsFile.save d s.path globals.values)

def get? (s : FileStore) (name : String) : Option String := s.globals.get? name

def set (s : FileStore) (d : Disk) (name value : String) : FileStore × Disk :=
  s.update d (s.globals.set name value)

/-- The file is written only when there was something to remove. -/
def remove (s : FileStore) (d : Disk) (name : String) : FileStore × Disk :=
  s.update d (s.globals.remove name)

end FileStore

end Questline
