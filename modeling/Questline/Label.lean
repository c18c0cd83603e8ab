import Questline.Dict
import Questline.Text.Basic
import Questline.Text.Case

/-! Labels and the lines they stand for. -/
namespace Questline

/-- The form under which a label is kept: without blanks around it, up to its first colon, and in
lower case. -/
def Label.normalize (name : String) : String :=
  Text.lower (String.ofList ((Text.trimChars name.toList).takeWhile (· ≠ ':')))

/-- Line indexes by label. -/
structure LabelTable where
  lines : Dict Nat := .empty
deriving Repr

namespace LabelTable

def empty : LabelTable := {}

def get? (t : LabelTable) (name : String) : Option Nat := t.lines.get? (Label.normalize name)

def contains (t : LabelTable) (name : String) : Bool := (t.get? name).isSome

/-- The first declaration of a label counts; a later one changes nothing. -/
def insert (t : LabelTable) (name : String) (index : Nat) : LabelTable :=
  if t.contains name then t else ⟨t.lines.insert (Label.normalize name) index⟩

def size (t : LabelTable) : Nat := t.lines.size

def toList (t : LabelTable) : List (String × Nat) := t.lines.entries

end LabelTable

end Questline
