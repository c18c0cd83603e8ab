/-! Finite maps from names to values, kept in ascending order of their names so that each map has
one form and is listed in one order. -/
namespace Questline

structure Dict (α : Type) where
  entries : List (String × α) := []
deriving Repr

namespace Dict

variable {α : Type}

def empty : Dict α := ⟨[]⟩

def find (name : String) : List (String × α) → Option α
  | [] => none
  | (key, value) :: rest => if key = name then some value else find name rest

def get? (d : Dict α) (name : String) : Option α := find name d.entries

def contains (d : Dict α) (name : String) : Bool := (d.get? name).isSome

/-- Puts an entry in front of the first greater name and in place of an entry of the same name. -/
def place (name : String) (value : α) : List (String × α) → List (String × α)
  | [] => [(name, value)]
  | (key, old) :: rest =>
    if key = name then (name, value) :: rest
    else if name < key then (name, value) :: (key, old) :: rest
    else (key, old) :: place name value rest

def insert (d : Dict α) (name : String) (value : α) : Dict α := ⟨place name value d.entries⟩

def erase (d : Dict α) (name : String) : Dict α := ⟨d.entries.filter fun e => e.1 ≠ name⟩

def ofList (entries : List (String × α)) : Dict α :=
  entries.foldl (fun d e => d.insert e.1 e.2) empty

def size (d : Dict α) : Nat := d.entries.length

def isEmpty (d : Dict α) : Bool := d.entries.isEmpty

@[simp] theorem get?_empty (name : String) : (empty : Dict α).get? name = none := rfl

theorem find_place (name other : String) (value : α) (es : List (String × α)) :
    find other (place name value es) = if other = name then some value else find other es := by
  induction es with
  | nil => grind [place, find]
  | cons e rest ih => grind [place, find]

@[simp] theorem get?_insert (d : Dict α) (name other : String) (value : α) :
    (d.insert name value).get? other = if other = name then some value else d.get? other :=
  find_place name other value d.entries

theorem find_filter (name other : String) (es : List (String × α)) :
    find other (es.filter fun e => e.1 ≠ name) = if other = name then none else find other es := by
  induction es with
  | nil => simp [find]
  | cons e rest ih => grind [find]

@[simp] theorem get?_erase (d : Dict α) (name other : String) :
    (d.erase name).get? other = if other = name then none else d.get? other :=
  find_filter name other d.entries

end Dict

end Questline
