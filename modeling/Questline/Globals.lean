import Questline.Dict

/-! The global variables, which all scripts of a client share and which outlive them. Their values
are texts. -/
namespace Questline

structure Globals where
  values : Dict String := .empty
  /-- Names that the store counts as present although it has no value for them. -/
  phantoms : List String := []
  /-- How often the store has been written to; whoever keeps a copy can tell that it is stale. -/
  revision : Nat := 0

namespace Globals

def get? (g : Globals) (name : String) : Option String := g.values.get? name

def contains (g : Globals) (name : String) : Bool :=
  g.values.contains name || g.phantoms.contains name

def set (g : Globals) (name value : String) : Globals :=
  { g with values := g.values.insert name value, revision := g.revision + 1 }

/-- Removing a name without a value is no write. -/
def remove (g : Globals) (name : String) : Globals :=
  if g.values.contains name then
    { g with values := g.values.erase name, revision := g.revision + 1 }
  else g

end Globals

end Questline
