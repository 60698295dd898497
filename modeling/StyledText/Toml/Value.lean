import StyledText.Number.Binary32

/-!
# Configuration values

The values of a TOML document, and how they are taken as what a setting needs.

A group of settings is a `Record`: a table with the settings by name, or an array with the settings
in their order.  Names that are not asked for are passed over, and a setting that is missing has its
default.  A date has none of the names that settings have, so as a record it leaves all at their
defaults.  A choice is a string, or a table of one entry under the name of the choice with nothing
in it.
-/

namespace StyledText.Toml

open Number

/-- A value of a document. -/
inductive Value where
  | string (text : String)
  | integer (value : Int)
  | float (value : Binary64)
  | boolean (value : Bool)
  /-- A date, a time or both, as it is written. -/
  | moment (text : String)
  | array (items : List Value)
  | table (entries : List (String × Value))

/-- Settings of a group. -/
inductive Record where
  /-- By name. -/
  | named (entries : List (String × Value))
  /-- By position. -/
  | positional (items : List Value)

namespace Value

/-- A value as a text. -/
def toText? : Value → Option String
  | .string text => some text
  | _ => none

/-- A value as a truth value. -/
def toBool? : Value → Option Bool
  | .boolean value => some value
  | _ => none

/-- A value as a natural number below a bound. -/
def toNat? (bound : Nat) : Value → Option Nat
  | .integer (.ofNat n) => if n < bound then some n else none
  | _ => none

/-- A value as a number, rounded to nearest. -/
def toBinary32? : Value → Option Binary32
  | .integer value => some (.ofInt value)
  | .float value => some (.ofBinary64 value)
  | _ => none

/-- Whether a value is an array or a table without anything in it. -/
def isHollow : Value → Bool
  | .array items => items.isEmpty
  | .table entries => entries.isEmpty
  | _ => false

/-- A value as one of several named choices. -/
def toChoice? {α : Type} (ofName? : String → Option α) : Value → Option α
  | .string name => ofName? name
  | .table [(name, value)] => if value.isHollow then ofName? name else none
  | _ => none

/-- A value as a group of settings. -/
def toRecord? : Value → Option Record
  | .table entries => some (.named entries)
  | .array items => some (.positional items)
  | .moment _ => some (.named [])
  | _ => none

end Value

namespace Record

/-- The value of the setting with a position and a name. -/
def find? (r : Record) (position : Nat) (name : String) : Option Value :=
  match r with
  | .named entries => entries.lookup name
  | .positional items => items[position]?

/-- The setting with a position and a name, read as it has to be; the default if it is missing. -/
def get? {α : Type} (r : Record) (position : Nat) (name : String) (read : Value → Option α)
    (default : α) : Option α :=
  match r.find? position name with
  | some value => read value
  | none => some default

end Record

end StyledText.Toml
