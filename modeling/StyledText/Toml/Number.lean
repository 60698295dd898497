import StyledText.Toml.Text
import StyledText.Toml.Value

/-!
# Numbers and dates

Numbers of a TOML document may have an underscore between two digits.  A decimal number has no zero
in front of other digits; a whole number can also be written in base sixteen, eight or two, and must
fit 64 bits with a sign.  A floating number is rounded to nearest, and one that is too great is
refused while one that is too small becomes minus infinity.

Dates and times are checked against the calendar and the clock, where a minute may have a leap
second.
-/

namespace StyledText.Toml

open Number Reader

/-! ### Numbers -/

/-- Digits of a base with single underscores between, which are left out. -/
def digits (base : Nat) : Reader (List Char) := do
  let digit := next (isDigitOf base)
  let first ← digit
  let others ← many (digit <|> (char '_' *> digit))
  return first :: others

/-- A sign, if there is one. -/
def sign : Reader (List Char) := do
  return (← optional (next fun c => c == '+' || c == '-')).toList

/-- A decimal whole number without a zero in front of other digits: its digits. -/
def decimalDigits : Reader (List Char) :=
  (char '0' *> pure ['0']) <|> digits 10

/-- The fraction of a number, with its point. -/
def fraction : Reader (List Char) := do
  char '.'
  return '.' :: (← digits 10)

/-- The exponent of a number, with its letter. -/
def exponent : Reader (List Char) := do
  let _ ← next fun c => c == 'e' || c == 'E'
  let negative ← sign
  return 'e' :: negative ++ (← digits 10)

/-- A floating number with a fraction, an exponent or both. -/
def numeral : Reader Binary64 := do
  let negative ← sign
  let whole ← decimalDigits
  let rest ← exponent <|> (do
    let places ← fraction
    let power ← optional exponent
    return places ++ power.getD [])
  let decimal ← ofOption (Decimal.ofChars? (negative ++ whole ++ rest))
  let value := Binary64.ofDecimal decimal
  guard (value ≠ .infinity false)
  return value

/-- Infinity, or what is not a number. -/
def specialFloat : Reader Binary64 := do
  let negative := (← sign) == ['-']
  (word "inf" *> pure (.infinity negative)) <|> (word "nan" *> pure (.nan negative))

/-- Whether a whole number fits 64 bits with a sign. -/
def fitsWord (n : Int) : Bool := Int64.minValue.toInt ≤ n && n ≤ Int64.maxValue.toInt

/-- A whole number behind a mark of its base. -/
def basedInteger (mark : String) (base : Nat) : Reader Int := do
  word mark
  return valueOf base (← digits base)

def decimalInteger : Reader Int := do
  let negative := (← sign) == ['-']
  let n : Int := valueOf 10 (← decimalDigits)
  return if negative then -n else n

def integer : Reader Int := do
  let n ← basedInteger "0x" 16 <|> basedInteger "0o" 8 <|> basedInteger "0b" 2 <|> decimalInteger
  guard (fitsWord n)
  return n

/-! ### Dates and times -/

/-- A number of `n` decimal digits within bounds. -/
def field (n least most : Nat) : Reader Nat := do
  let value := valueOf 10 (← times (next Char.isDigit) n)
  guard (least ≤ value ∧ value ≤ most)
  return value

/-- Whether a year has a leap day. -/
def isLeapYear (year : Nat) : Bool := year % 4 == 0 && (year % 100 != 0 || year % 400 == 0)

/-- The number of days of a month. -/
def daysOf (year month : Nat) : Nat :=
  if month = 2 then if isLeapYear year then 29 else 28
  else if month = 4 ∨ month = 6 ∨ month = 9 ∨ month = 11 then 30
  else 31

def date : Reader Unit := do
  let year ← field 4 0 9999
  char '-'
  let month ← field 2 1 12
  char '-'
  let _ ← field 2 1 (daysOf year month)

def time : Reader Unit := do
  let _ ← field 2 0 23
  char ':'
  let _ ← field 2 0 59
  char ':'
  let _ ← field 2 0 60
  let _ ← optional (char '.' *> next Char.isDigit *> span Char.isDigit)

/-- How far a clock is ahead of or behind the common one. -/
def offset : Reader Unit :=
  (do let _ ← next fun c => c == 'Z' || c == 'z') <|> do
    let _ ← next fun c => c == '+' || c == '-'
    let _ ← field 2 0 23
    char ':'
    let _ ← field 2 0 59

/-- The time behind a date. -/
def timeOfDate : Reader Unit := do
  let _ ← next fun c => c == 'T' || c == 't' || c == ' '
  time
  let _ ← optional offset

/-- A date, a time or both, as it is written. -/
def moment : Reader String := fun cs =>
  (((date *> optional timeOfDate) *> pure ()) <|> time) cs |>.map fun ((), rest) =>
    (String.ofList (cs.take (cs.length - rest.length)), rest)

/-! ### Values without parts -/

def boolean : Reader Bool := (word "true" *> pure true) <|> (word "false" *> pure false)

/-- A value that has no values inside. -/
def scalar : Reader Value :=
  Value.string <$> text <|> Value.moment <$> moment <|> Value.float <$> numeral <|>
    Value.float <$> specialFloat <|> Value.integer <$> integer <|> Value.boolean <$> boolean

end StyledText.Toml
