import Questline.Text.Basic

/-! Paths as they are written. A path is a text whose parts are separated by slashes; empty parts
and single dots inside it say nothing. -/
namespace Questline

/-- The parts of a path that say something. -/
inductive PathPart where
  | root
  | here
  | up
  | normal (name : String)
deriving Repr, DecidableEq

namespace PathPart

/-- The order of parts: the root, then the place itself, then the parent, then names. -/
def rank : PathPart → Nat
  | root => 0
  | here => 1
  | up => 2
  | normal _ => 3

def before : PathPart → PathPart → Bool
  | normal a, normal b => a < b
  | a, b => a.rank < b.rank

end PathPart

structure Path where
  text : String
deriving Repr, DecidableEq

namespace Path

def pieces (p : Path) : List String := Text.cut '/' p.text

def isAbsolute (p : Path) : Bool := Text.startsWith p.text "/"

def hasEndingSlash (p : Path) : Bool := p.text.toList.getLast? = some '/'

def part? (piece : String) : Option PathPart :=
  if piece = "" || piece = "." then none
  else if piece = ".." then some .up
  else some (.normal piece)

/-- The parts of a path. A single dot counts at the very start only. -/
def parts (p : Path) : List PathPart :=
  let first := if p.isAbsolute then [.root] else if p.pieces.head? = some "." then [.here] else []
  first ++ p.pieces.filterMap part?

def partsBefore : List PathPart → List PathPart → Bool
  | [], [] => false
  | [], _ :: _ => true
  | _ :: _, [] => false
  | a :: as, b :: bs => a.before b || (a = b && partsBefore as bs)

def before (a b : Path) : Bool := partsBefore a.parts b.parts

def fileName? (p : Path) : Option String :=
  match p.parts.getLast? with
  | some (.normal name) => some name
  | _ => none

/-- A file name cut at its last dot. A dot at the very start does not count. -/
def splitName (name : String) : String × Option String :=
  let reversed := name.toList.reverse
  match reversed.dropWhile (· ≠ '.') with
  | '.' :: stem =>
    if stem.isEmpty then (name, none)
    else (String.ofList stem.reverse, some (String.ofList (reversed.takeWhile (· ≠ '.')).reverse))
  | _ => (name, none)

def stem? (p : Path) : Option String := p.fileName?.map fun name => (splitName name).1

def extension? (p : Path) : Option String := p.fileName?.bind fun name => (splitName name).2

/-- Whether a piece of a path says nothing. -/
def isSilent (piece : String) : Bool := (part? piece).isNone

def dropSilent (pieces : List String) : List String := (pieces.reverse.dropWhile isSilent).reverse

def trimEnd (p : Path) : Path := ⟨"/".intercalate (dropSilent p.pieces)⟩

/-- Adds an extension to a path that has none; a path that does not end in a name stays. -/
def addExtension (p : Path) (extension : String) : Path :=
  match p.fileName? with
  | some _ => ⟨p.trimEnd.text ++ "." ++ extension⟩
  | none => p

/-- A path seen from a directory. An absolute path is not changed by that. -/
def join (base p : Path) : Path :=
  if p.isAbsolute || base.text.isEmpty then p
  else if base.hasEndingSlash then ⟨base.text ++ p.text⟩
  else ⟨base.text ++ "/" ++ p.text⟩

/-- The path without its last part; there is none for the root and for the empty path. -/
def parent? (p : Path) : Option Path :=
  match p.parts.reverse with
  | [] | [.root] => none
  | [.here] => some ⟨""⟩
  | _ =>
    let shorter := dropSilent (dropSilent p.pieces).dropLast
    let text := "/".intercalate shorter
    if p.isAbsolute && text.isEmpty then some ⟨"/"⟩
    else if text.isEmpty && p.pieces.head? = some "." then some ⟨"."⟩
    else some ⟨text⟩

end Path

end Questline
