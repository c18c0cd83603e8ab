import Questline.Disk
import Questline.Program

/-! Script files: where they are found and what is in them. -/
namespace Questline.Source

def extensions : List String := ["wsl", "cmd"]

/-- The files that a path may mean: itself, and with each extension unless it has one. -/
def candidates (p : Path) : List Path :=
  p :: if p.extension?.isSome then [] else extensions.map p.addExtension

/-- The files that a script may be meant by. A relative name is tried from the base directory first.
-/
def places (script : String) (base : Option Path) : List Path :=
  let asked : Path := ⟨script⟩
  let bases := if asked.isAbsolute then [] else base.toList
  (bases.flatMap fun b => candidates (b.join asked)) ++ candidates asked

def resolve (d : Disk) (script : String) (base : Option Path) : Except Fault Path :=
  match (places script base).find? d.isFile with
  | some found => .ok found
  | none => .error (Fault.ofCause (.sourceNotFound script))

/-- The name under which a script runs. -/
def nameOf (p : Path) : String := p.stem?.getD "script"

structure Loaded where
  name : String
  path : Path
  program : Program

def load (d : Disk) (p : Path) : Except Fault Loaded :=
  match d.readText p with
  | .ok text => .ok { name := nameOf p, path := p, program := Program.parse text }
  | .error e => .error (Fault.ofCause (.sourceUnreadable e))

def find (d : Disk) (script : String) (base : Option Path) : Except Fault Loaded := do
  load d (← resolve d script base)

def isScript (p : Path) : Bool :=
  p.extension?.any fun extension => extensions.contains (Text.lowerPlain extension)

/-- A single file, or all script files below a directory in order. -/
def collect (d : Disk) (root : Path) : Except Fault (List Path) :=
  match d.lookup root with
  | .error _ => .error (Fault.ofCause (.pathNotFound root.text))
  | .ok (.file _) => .ok [root]
  | .ok .directory =>
    let paths := (d.filesBelow (d.place root)).map fun names => root.join ⟨"/".intercalate names⟩
    let found := paths.filter isScript
    if found.isEmpty then .error (Fault.ofCause (.sourceEmpty root.text))
    else .ok (found.mergeSort fun a b => !b.before a)

end Questline.Source
