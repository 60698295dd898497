import StyledText.Number.Decimal

/-!
# Numbers of 32 bits

A `Binary32` is the 32 bits of a floating number in the format `Format.single`: the sign bit and the
magnitude.  Stored numbers keep all their bits.  The operations work on exact values:

* `key` orders all numbers by value; both zeros have the key `0`, so `le` and `lt` are the usual
  comparisons once what is not a number is set aside;
* `min` and `max` pass over an operand that is not a number;
* `add` and `sub` add the exact values in units and round once;
* `ofDecimal`, `ofInt` and `ofBinary64` round an exact value.
-/

namespace StyledText.Number

/-- A floating number of 32 bits. -/
structure Binary32 where
  /-- The bits, the sign first. -/
  bits : UInt32
deriving DecidableEq, Repr

namespace Binary32

/-- The number with the given sign and magnitude. -/
def ofMagnitude (negative : Bool) (magnitude : Nat) : Binary32 :=
  ⟨UInt32.ofNat (if negative then 0x80000000 + magnitude else magnitude)⟩

/-- Zero, with a plus sign. -/
def zero : Binary32 := ⟨0⟩

def one : Binary32 := ⟨0x3F800000⟩

/-- The number that stands for "not a number" in results. -/
def nan : Binary32 := ⟨0x7FC00000⟩

instance : Inhabited Binary32 := ⟨zero⟩

/-- Whether the sign is a minus. -/
def isNegative (x : Binary32) : Bool := 0x80000000 ≤ x.bits.toNat

/-- The bits without the sign. -/
def magnitude (x : Binary32) : Nat := x.bits.toNat % 0x80000000

/-- Whether the bits stand for no number. -/
def isNaN (x : Binary32) : Bool := Format.single.infinity < x.magnitude

/-- Whether the number is neither infinite nor "not a number". -/
def isFinite (x : Binary32) : Bool := x.magnitude < Format.single.infinity

/-- A whole number that orders the numbers by value. -/
def key (x : Binary32) : Int :=
  if x.isNegative then -(x.magnitude : Int) else x.magnitude

/-! ### Comparison -/

/-- Less or equal, false when an operand is not a number. -/
def le (x y : Binary32) : Bool := !x.isNaN && !y.isNaN && x.key ≤ y.key

/-- Strictly less, false when an operand is not a number. -/
def lt (x y : Binary32) : Bool := !x.isNaN && !y.isNaN && x.key < y.key

/-- Equal in value: the zeros are equal, and what is not a number equals nothing. -/
def sameValue (x y : Binary32) : Bool := !x.isNaN && !y.isNaN && x.key == y.key

/-- The lesser of two numbers; an operand that is not a number is passed over. -/
def min (x y : Binary32) : Binary32 :=
  if x.isNaN then y else if y.isNaN then x else if y.key < x.key then y else x

/-- The greater of two numbers; an operand that is not a number is passed over. -/
def max (x y : Binary32) : Binary32 :=
  if x.isNaN then y else if y.isNaN then x else if x.key < y.key then y else x

/-! ### Arithmetic -/

/-- The exact value of a finite number in units of the least positive one. -/
def units (x : Binary32) : Int :=
  let n := Format.single.units x.magnitude
  if x.isNegative then -(n : Int) else n

/-- The negative of a number. -/
def neg (x : Binary32) : Binary32 := ofMagnitude (!x.isNegative) x.magnitude

/-- The sum, rounded to nearest.  Opposite infinities have no sum, and an exact zero is negative
only when both operands are negative. -/
def add (x y : Binary32) : Binary32 :=
  if x.isNaN ∨ y.isNaN then nan
  else if !x.isFinite then
    if !y.isFinite ∧ x.isNegative ≠ y.isNegative then nan else x
  else if !y.isFinite then y
  else
    let sum := x.units + y.units
    let negative := if sum = 0 then x.isNegative && y.isNegative else decide (sum < 0)
    ofMagnitude negative (Format.single.nearest sum.natAbs 1)

/-- The difference, rounded to nearest. -/
def sub (x y : Binary32) : Binary32 := x.add y.neg

/-! ### From exact values -/

/-- The number nearest to a decimal value. -/
def ofDecimal (d : Decimal) : Binary32 := ofMagnitude d.negative (d.nearest .single)

/-- The number nearest to a whole number. -/
def ofInt (n : Int) : Binary32 :=
  ofMagnitude (n < 0) (Format.single.nearest (n.natAbs * Nat.pow 2 Format.single.unitExponent) 1)

end Binary32

/-- A floating number of 64 bits. -/
structure Binary64 where
  /-- The bits, the sign first. -/
  bits : UInt64
deriving DecidableEq, Repr

namespace Binary64

/-- The number with the given sign and magnitude. -/
def ofMagnitude (negative : Bool) (magnitude : Nat) : Binary64 :=
  ⟨UInt64.ofNat (if negative then 0x8000000000000000 + magnitude else magnitude)⟩

/-- Whether the sign is a minus. -/
def isNegative (x : Binary64) : Bool := 0x8000000000000000 ≤ x.bits.toNat

/-- The bits without the sign. -/
def magnitude (x : Binary64) : Nat := x.bits.toNat % 0x8000000000000000

/-- Infinity, with the given sign. -/
def infinity (negative : Bool) : Binary64 := ofMagnitude negative Format.double.infinity

/-- A number that stands for "not a number", with the given sign. -/
def nan (negative : Bool) : Binary64 :=
  ofMagnitude negative (Format.double.infinity + Format.double.binade / 2)

/-- The number nearest to a decimal value. -/
def ofDecimal (d : Decimal) : Binary64 := ofMagnitude d.negative (d.nearest .double)

end Binary64

/-- The number of 32 bits nearest to one of 64 bits; the sign stays also on what is not a number. -/
def Binary32.ofBinary64 (x : Binary64) : Binary32 :=
  let infinity := Format.double.infinity
  if infinity < x.magnitude then .ofMagnitude x.isNegative nan.magnitude
  else if x.magnitude = infinity then .ofMagnitude x.isNegative Format.single.infinity
  else
    .ofMagnitude x.isNegative <|
      Format.single.nearest (Format.double.units x.magnitude)
        (Nat.pow 2 (Format.double.unitExponent - Format.single.unitExponent))

/-! ### Reading -/

/-- A word in lower-case ASCII letters, for comparing words without their case. -/
def lowercase (cs : List Char) : List Char := cs.map Char.toLower

/-- The number that a text spells: a numeral, rounded to nearest, or the word `inf`, `infinity` or
`nan` in any case behind an optional sign. -/
def Binary32.ofText? (s : String) : Option Binary32 :=
  match Decimal.ofChars? s.toList with
  | some d => some (.ofDecimal d)
  | none =>
    let (negative, word) := splitSign s.toList
    let word := String.ofList (lowercase word)
    if word = "inf" ∨ word = "infinity" then
      some (.ofMagnitude negative Format.single.infinity)
    else if word = "nan" then some (.ofMagnitude negative nan.magnitude)
    else none

end StyledText.Number
