/-!
# Binary floating formats

A format is fixed by its precision and the width of its exponent.  The magnitude of a number (the
number without its sign) is the natural number that its exponent and fraction bits spell, so the
magnitudes of a format are `0, 1, 2, …` in the order of their values, infinity is the first
magnitude past the finite ones, and what lies beyond infinity is no number.

Every finite value is a whole multiple of the least one.  `Format.units` counts those multiples, and
`Format.nearest` goes back from any ratio of naturals to the magnitude that lies nearest, a tie to
the even one.  Arithmetic and reading are exact until that one rounding.
-/

namespace StyledText.Number

/-- A binary floating format. -/
structure Format where
  /-- The number of significant bits, the leading one included. -/
  precision : Nat
  exponentBits : Nat
deriving DecidableEq, Repr

namespace Format

/-- The format of 32 bits. -/
def single : Format := ⟨24, 8⟩

/-- The format of 64 bits. -/
def double : Format := ⟨53, 11⟩

/-- The number of magnitudes that share an exponent. -/
def binade (f : Format) : Nat := Nat.pow 2 (f.precision - 1)

/-- The magnitude of infinity: all exponent bits set and no fraction. -/
def infinity (f : Format) : Nat := (Nat.pow 2 f.exponentBits - 1) * f.binade

/-- The least positive value is two to the minus this. -/
def unitExponent (f : Format) : Nat := Nat.pow 2 (f.exponentBits - 1) + f.precision - 3

/-- The value of a magnitude as a multiple of the least positive value. -/
def units (f : Format) (magnitude : Nat) : Nat :=
  if magnitude < f.binade then magnitude
  else (f.binade + magnitude % f.binade) * Nat.pow 2 (magnitude / f.binade - 1)

end Format

/-- The whole number nearest to a ratio, a tie to the even one. -/
def roundHalfEven (num den : Nat) : Nat :=
  let quotient := num / den
  let twice := 2 * (num % den)
  if twice < den ∨ (twice = den ∧ quotient % 2 = 0) then quotient else quotient + 1

/-- The magnitude nearest to `num / den` units, a tie to the even one.  Values of at least half a
step beyond the greatest finite one go to infinity. -/
def Format.nearest (f : Format) (num den : Nat) : Nat :=
  let shift := Nat.log2 (num / den) + 1 - f.precision
  min f.infinity (shift * f.binade + roundHalfEven num (den * Nat.pow 2 shift))

example : Format.single.nearest (Format.single.units 0x3DCCCCCD) 1 = 0x3DCCCCCD := by decide +kernel

example : Format.single.nearest (2 ^ 149) 10 = 0x3DCCCCCD := by decide +kernel

end StyledText.Number
