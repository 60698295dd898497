import StyledText.Toml.Text
import StyledText.Toml.Value

/-!
# Tables under construction

The lines of a document may fill a table from several places, and the rules for what may be filled
from where depend on how the table came about.  A `Draft` keeps that beside the entries:

* a table with a header or braces of its own is complete where it stands: dotted keys from outside
  do not lead into it, and a second header is refused;
* a table that only lies on the way of a header can still get a header, and takes no entries before;
* a table that dotted keys have made takes entries from dotted keys only.

A table that is one of an array of tables is filled by what follows its header, and a key that leads
through the array leads to its last table.
-/

namespace StyledText.Toml

/-- How a table came about. -/
inductive Origin where
  /-- By a header or braces of its own. -/
  | declared
  /-- On the way of a header. -/
  | passed
  /-- On the way of a dotted key. -/
  | dotted
deriving DecidableEq, Repr

/-- What stands under a name in a table, with tables of type `τ`. -/
inductive Entry (τ : Type) where
  | value (value : Value)
  | table (table : τ)
  | tables (tables : List τ)

/-- A table under construction. -/
structure Draft where
  origin : Origin := .declared
  entries : List (String × Entry Draft) := []

namespace Draft

/-- What stands under a name. -/
def find? (d : Draft) (name : String) : Option (Entry Draft) := d.entries.lookup name

/-- The table with an entry under a name, in place of the one before if there was one. -/
def put (d : Draft) (name : String) (entry : Entry Draft) : Draft :=
  if (d.find? name).isSome then
    { d with entries := d.entries.map fun old => if old.1 = name then (name, entry) else old }
  else { d with entries := d.entries ++ [(name, entry)] }

/-- Changes the table that a path leads to.  Tables on the way that are not there yet come about as
`origin` tells. -/
def update (origin : Origin) (change : Draft → Option Draft) : List String → Draft → Option Draft
  | [], d => change d
  | name :: path, d =>
    match d.find? name with
    | none => (update origin change path { origin }).map fun t => d.put name (.table t)
    | some (.value _) => none
    | some (.table t) =>
      if origin = .dotted ∧ t.origin = .declared then none
      else (update origin change path t).map fun t => d.put name (.table t)
    | some (.tables ts) =>
      match ts.getLast? with
      | none => none
      | some last =>
        (update origin change path last).map fun t => d.put name (.tables (ts.dropLast ++ [t]))

/-- Adds a value under a key.  The table that the key leads to must have come about by dotted keys
just when the key is dotted, and the name must be new in it. -/
def insert (k : Key) (v : Value) : Draft → Option Draft :=
  update .dotted
    (fun d =>
      if (d.origin = .dotted ↔ k.path = []) ∨ (d.find? k.name).isSome then none
      else some (d.put k.name (.value v)))
    k.path

/-- Declares the table of a key, which must be new or on the way of other headers so far. -/
def declare (k : Key) : Draft → Option Draft :=
  update .passed
    (fun d =>
      match d.find? k.name with
      | none => some (d.put k.name (.table {}))
      | some (.table t) =>
        if t.origin = .passed then some (d.put k.name (.table { t with origin := .declared }))
        else none
      | some _ => none)
    k.path

/-- Declares one more table in the array of tables of a key, which must be new or such an array. -/
def declareNext (k : Key) : Draft → Option Draft :=
  update .passed
    (fun d =>
      match d.find? k.name with
      | none => some (d.put k.name (.tables [{}]))
      | some (.tables ts) => some (d.put k.name (.tables (ts ++ [{}])))
      | some _ => none)
    k.path

mutual

def toValue : Draft → Value
  | ⟨_, entries⟩ => .table (entryValues entries)

def entryValues : List (String × Entry Draft) → List (String × Value)
  | [] => []
  | (name, .value v) :: rest => (name, v) :: entryValues rest
  | (name, .table t) :: rest => (name, toValue t) :: entryValues rest
  | (name, .tables ts) :: rest => (name, .array (tableValues ts)) :: entryValues rest

/-- The finished tables of an array. -/
def tableValues : List Draft → List Value
  | [] => []
  | t :: rest => toValue t :: tableValues rest

end

/-- The table of keys and values that stand together between braces. -/
def ofPairs? (pairs : List (Key × Value)) : Option Value :=
  (pairs.foldlM (fun d (k, v) => insert k v d) {}).map toValue

end Draft

end StyledText.Toml
