import StyledText.Number.Binary32

/-!
# The shortest text of a number

The text of a finite number is the decimal numeral with the fewest digits among those that round to
the number, and of several such the one nearest to the number, a tie upward.  It is written out in
full, without an exponent, and without a point when the value is whole.

`shortest` tries the grids of multiples of ten to the `k` from coarse to fine.  On each grid only
the two neighbours of the exact value can be nearest, so it looks at those; the first grid with a
hit has the fewest digits.
-/

namespace StyledText.Number.Binary32

/-- The interval of values that round to one magnitude, in half units. -/
structure Rounding where
  value : Nat
  low : Nat
  high : Nat
  /-- Whether the ends round to the magnitude too, as they do for even magnitudes. -/
  closed : Bool

/-- The values that round to a magnitude lie half-way to its neighbours on either side. -/
def rounding (magnitude : Nat) : Rounding :=
  let units := Format.single.units
  { value := 2 * units magnitude
    low := units (magnitude - 1) + units magnitude
    high := units magnitude + units (magnitude + 1)
    closed := magnitude % 2 == 0 }

/-- Whether `num / den` half units round to the magnitude. -/
def Rounding.contains (r : Rounding) (num den : Nat) : Bool :=
  if r.closed then r.low * den ≤ num && num ≤ r.high * den
  else r.low * den < num && num < r.high * den

/-- The multiple of ten to the `k` nearest to the exact value among its two neighbours that round to
the magnitude, by its factor. -/
def Rounding.onGrid? (r : Rounding) (k : Int) : Option Nat :=
  let halfUnits := Nat.pow 2 (Format.single.unitExponent + 1)
  -- one grid step is `step / den` half units
  let step := halfUnits * Nat.pow 10 k.toNat
  let den := Nat.pow 10 (-k).toNat
  let below := r.value * den / step
  let above := below + 1
  let isBelow := r.contains (below * step) den
  let isAbove := r.contains (above * step) den
  if isBelow && isAbove then
    if r.value * den - below * step < above * step - r.value * den then some below else some above
  else if isBelow then some below
  else if isAbove then some above
  else none

/-- The powers of ten to try, coarse to fine: from above the greatest number, below ten to the 39,
to where even the least one has nine digits. -/
def grids : List Int := (List.range 100).map fun i : Nat => (39 : Int) - i

/-- The fewest digits that round to a positive finite magnitude: a whole number and the power of ten
that it is multiplied by. -/
def shortest (magnitude : Nat) : Nat × Int :=
  let r := rounding magnitude
  (grids.findSome? fun k => (r.onGrid? k).map fun n => (n, k)).getD (0, 0)

/-- A whole number times a power of ten, written out in full. -/
def positional (n : Nat) (k : Int) : String :=
  let digits := Nat.toDigits 10 n
  String.ofList <|
    match k with
    | .ofNat k => digits ++ List.replicate k '0'
    | .negSucc k =>
      let places := k + 1
      let padded := List.replicate (places + 1 - digits.length) '0' ++ digits
      padded.take (padded.length - places) ++ '.' :: padded.drop (padded.length - places)

/-- The text of a number. -/
def toText (x : Binary32) : String :=
  let sign := if x.isNegative then "-" else ""
  if x.isNaN then "NaN"
  else if !x.isFinite then sign ++ "inf"
  else if x.magnitude = 0 then sign ++ "0"
  else
    let (n, k) := shortest x.magnitude
    sign ++ positional n k

example : toText ⟨0x3DCCCCCD⟩ = "0.1" := by decide +kernel

example : toText ⟨0x4CEB79A3⟩ = "123456790" := by decide +kernel

end StyledText.Number.Binary32
