import StyledText.Number.Binary

/-!
# Decimal numerals

A numeral is an optional sign, decimal digits with an optional point among, before or after them,
and an optional exponent: the letter `e` in either case, an optional sign, and digits.  There is at
least one digit beside the point.  `Decimal.ofChars?` reads a numeral to its exact value and
`Decimal.nearest` rounds that value to a binary format.
-/

namespace StyledText.Number

/-- An exact decimal value: `digits` times ten to the `exponent`, with a sign. -/
structure Decimal where
  negative : Bool
  /-- The digits, read as one whole number. -/
  digits : Nat
  exponent : Int
deriving DecidableEq, Repr

/-- The value of a list of decimal digits. -/
def digitsValue (ds : List Char) : Nat :=
  ds.foldl (fun n d => 10 * n + (d.toNat - '0'.toNat)) 0

/-- Splits an optional sign off the front: whether it is a minus, and what follows. -/
def splitSign : List Char → Bool × List Char
  | '-' :: cs => (true, cs)
  | '+' :: cs => (false, cs)
  | cs => (false, cs)

namespace Decimal

/-- The exponent that stands behind the digits: nothing, or the letter and a signed number. -/
def exponentOf? : List Char → Option Int
  | [] => some 0
  | e :: cs =>
    if e = 'e' ∨ e = 'E' then
      let (negative, ds) := splitSign cs
      if ds.isEmpty ∨ !ds.all Char.isDigit then none
      else some (if negative then -(digitsValue ds : Int) else digitsValue ds)
    else none

/-- The value of an unsigned numeral. -/
def magnitudeOf? (negative : Bool) (cs : List Char) : Option Decimal :=
  let whole := cs.takeWhile Char.isDigit
  let rest := cs.dropWhile Char.isDigit
  let (fraction, rest) := match rest with
    | '.' :: rest => (rest.takeWhile Char.isDigit, rest.dropWhile Char.isDigit)
    | rest => ([], rest)
  if whole.isEmpty ∧ fraction.isEmpty then none
  else
    (exponentOf? rest).map fun e =>
      ⟨negative, digitsValue (whole ++ fraction), e - (fraction.length : Int)⟩

/-- The value of a numeral. -/
def ofChars? (cs : List Char) : Option Decimal :=
  let (negative, cs) := splitSign cs
  magnitudeOf? negative cs

/-- The magnitude of a format that lies nearest to a decimal value, a tie to the even one.

With `top` the exponent of the power of ten just above the value, a value of at least two to the
power where the format ends is infinite and one below half the least positive value is zero. -/
def nearest (f : Format) (d : Decimal) : Nat :=
  let top : Int := (Nat.toDigits 10 d.digits).length + d.exponent
  if d.digits = 0 ∨ top < -(f.unitExponent : Int) then 0
  else if (f.unitExponent : Int) < top then f.infinity
  else
    let scaled := d.digits * Nat.pow 2 f.unitExponent
    match d.exponent with
    | .ofNat e => f.nearest (scaled * Nat.pow 10 e) 1
    | .negSucc e => f.nearest scaled (Nat.pow 10 (e + 1))

example : (ofChars? "-12.5e1".toList) = some ⟨true, 125, 0⟩ := by decide +kernel

end Decimal

end StyledText.Number
