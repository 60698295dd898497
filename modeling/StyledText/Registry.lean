/-!
# Registries

A `Registry` gives each name a number, its index.  Indices are dense: they count the names from zero
in the order of their first registration.  A name that is registered again keeps its index and the
value it came with first, so an index means the same until the registry is cleared.

The registry is the list of its entries.  Everything else (`indexOf?`, `find?`, `get?`, `name?`) is
read off that list.
-/

namespace StyledText

/-- Named values with dense indices, in the order of first registration. -/
structure Registry (α : Type) where
  /-- The names with their values; the position is the index. -/
  entries : List (String × α) := []
deriving DecidableEq, Repr

namespace Registry

variable {α : Type}

def empty : Registry α := {}

instance : EmptyCollection (Registry α) := ⟨empty⟩

instance : Inhabited (Registry α) := ⟨empty⟩

def size (r : Registry α) : Nat := r.entries.length

def isEmpty (r : Registry α) : Bool := r.entries.isEmpty

def indexOf? (r : Registry α) (name : String) : Option Nat :=
  r.entries.findIdx? fun entry => entry.1 == name

def get? (r : Registry α) (index : Nat) : Option α := r.entries[index]?.map (·.2)

def name? (r : Registry α) (index : Nat) : Option String := r.entries[index]?.map (·.1)

def find? (r : Registry α) (name : String) : Option α := (r.indexOf? name).bind r.get?

def contains (r : Registry α) (name : String) : Bool := (r.indexOf? name).isSome

/-- Registers a value under a name: the index of the name, and the registry after.  A registered
name keeps its value. -/
def register (r : Registry α) (name : String) (value : α) : Nat × Registry α :=
  match r.indexOf? name with
  | some index => (index, r)
  | none => (r.size, ⟨r.entries ++ [(name, value)]⟩)

/-- All entries with their indices, in order. -/
def toList (r : Registry α) : List (Nat × String × α) :=
  r.entries.zipIdx.map fun (entry, index) => (index, entry)

/-- An index has no value just when it is not below the number of names. -/
theorem get?_eq_none_iff {r : Registry α} {index : Nat} :
    r.get? index = none ↔ r.size ≤ index := by
  rw [get?, Option.map_eq_none_iff, List.getElem?_eq_none_iff, size]

/-! ### What registering does -/

variable {r : Registry α} {name : String} {value : α}

/-- A new name is added at the end. -/
theorem register_of_indexOf?_eq_none (h : r.indexOf? name = none) :
    r.register name value = (r.size, ⟨r.entries ++ [(name, value)]⟩) := by
  simp only [register, h]

/-- A registered name changes nothing. -/
theorem register_of_indexOf?_eq_some {index : Nat} (h : r.indexOf? name = some index) :
    r.register name value = (index, r) := by
  simp only [register, h]

end Registry

end StyledText
