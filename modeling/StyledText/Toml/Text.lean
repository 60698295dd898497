import StyledText.Toml.Reader

/-!
# Blanks, texts and keys

The texts of a TOML document stand between quotes.  Between double quotes a backslash begins an
escape, between single quotes every character stands for itself, and between three quotes of either
sort a text can go over several lines.  A line break is a line feed, alone or behind a carriage
return, and is read as a line feed; control characters but tabs are not allowed anywhere.
-/

namespace StyledText.Toml

open Reader

/-! ### Blanks -/

/-- Whether a character can stand in a line. -/
def isPrintable (c : Char) : Bool := c == '\t' || (0x20 ≤ c.toNat && c.toNat ≠ 0x7F)

/-- Whether a character is a blank. -/
def isSpace (c : Char) : Bool := c == ' ' || c == '\t'

def spaces : Reader Unit := do
  let _ ← span isSpace

def lineBreak : Reader Unit := char '\n' <|> word "\r\n"

/-- A comment up to the end of its line. -/
def comment : Reader Unit := do
  char '#'
  let _ ← span isPrintable

/-- What may follow at the end of a line, and the end. -/
def lineEnd : Reader Unit := do
  spaces
  let _ ← optional comment
  lineBreak <|> atEnd

/-- Any number of blanks, comments and line breaks. -/
def gaps : Reader Unit := do
  spaces
  let _ ← many ((optional comment *> lineBreak) *> spaces)

/-! ### Digits -/

/-- The value of a digit in a base up to sixteen. -/
def digitValue? (base : Nat) (c : Char) : Option Nat :=
  let value :=
    if c.isDigit then some (c.toNat - '0'.toNat)
    else if 'a' ≤ c ∧ c ≤ 'f' then some (10 + (c.toNat - 'a'.toNat))
    else if 'A' ≤ c ∧ c ≤ 'F' then some (10 + (c.toNat - 'A'.toNat))
    else none
  value.filter (· < base)

/-- Whether a character is a digit of a base. -/
def isDigitOf (base : Nat) (c : Char) : Bool := (digitValue? base c).isSome

/-- The number that digits of a base spell. -/
def valueOf (base : Nat) (digits : List Char) : Nat :=
  digits.foldl (fun n c => base * n + (digitValue? base c).getD 0) 0

/-! ### Texts -/

/-- The character of a number of `n` hexadecimal digits. -/
def hexChar (n : Nat) : Reader (List Char) := do
  let digits ← times (next (isDigitOf 16)) n
  let code := valueOf 16 digits
  guard code.isValidChar
  return [Char.ofNat code]

def escape : Reader (List Char) := do
  char '\\'
  match ← next fun _ => true with
  | 'b' => return ['\x08']
  | 't' => return ['\t']
  | 'n' => return ['\n']
  | 'f' => return ['\x0c']
  | 'r' => return ['\r']
  | '\x22' => return ['\x22']
  | '\\' => return ['\\']
  | 'u' => hexChar 4
  | 'U' => hexChar 8
  | _ => failure

/-- Whether a character stands for itself between double quotes. -/
def isPlain (c : Char) : Bool := isPrintable c && c != '\x22' && c != '\\'

/-- Whether a character stands for itself between single quotes. -/
def isLiteral (c : Char) : Bool := isPrintable c && c != '\x27'

/-- The characters between two quotes. -/
def quotedBy (quote : Char) (piece : Reader (List Char)) : Reader (List Char) := do
  char quote
  let pieces ← many piece
  char quote
  return pieces.flatten

/-- A text on one line between double quotes. -/
def basicText : Reader (List Char) := quotedBy '\x22' (List.singleton <$> next isPlain <|> escape)

/-- A text on one line between single quotes. -/
def literalText : Reader (List Char) := quotedBy '\x27' (List.singleton <$> next isLiteral)

/-- A number of quotes in a row, from `least` to `most`. -/
def quotes (quote : Char) (least most : Nat) : Reader Nat := do
  let run ← span (· == quote)
  guard (least ≤ run.length ∧ run.length ≤ most)
  return run.length

/-- A text between three quotes.  A line break right behind the first three is left out, and one or
two quotes stand for themselves, also before the last three. -/
def multilineText (quote : Char) (piece : Reader (List Char)) : Reader (List Char) := do
  let _ ← times (char quote) 3
  let _ ← optional lineBreak
  let pieces ← many (piece <|> (List.replicate · quote) <$> quotes quote 1 2)
  let last ← quotes quote 3 5
  return pieces.flatten ++ List.replicate (last - 3) quote

/-- A backslash at the end of a line, which is left out with all blanks and line breaks after it. -/
def continuation : Reader (List Char) := do
  char '\\'
  spaces
  lineBreak
  let _ ← many (char ' ' <|> char '\t' <|> lineBreak)
  return []

/-- A line break inside a text. -/
def brokenLine : Reader (List Char) := do
  lineBreak
  return ['\n']

/-- A text of any sort. -/
def text : Reader String :=
  String.ofList <$>
    (multilineText '\x22'
        (List.singleton <$> next isPlain <|> continuation <|> escape <|> brokenLine) <|>
      basicText <|>
      multilineText '\x27' (List.singleton <$> next isLiteral <|> brokenLine) <|>
      literalText)

/-! ### Keys -/

/-- A key: the names that lead to a table, and a name in it. -/
structure Key where
  path : List String
  name : String
deriving DecidableEq, Repr

/-- All names of a key. -/
def Key.names (k : Key) : List String := k.path ++ [k.name]

/-- Keys have fewer names than this, and values are nested less deeply. -/
def depthLimit : Nat := 80

/-- Whether a character can stand in a name without quotes. -/
def isBare (c : Char) : Bool := c.isAlphanum || c == '_' || c == '-'

def bareName : Reader (List Char) := do
  let cs ← span isBare
  guard (cs ≠ [])
  return cs

/-- One name of a key, between blanks. -/
def keyName : Reader String := do
  spaces
  let cs ← basicText <|> literalText <|> bareName
  spaces
  return String.ofList cs

/-- A key: names with points between. -/
def key : Reader Key := do
  let first ← keyName
  let others ← many (char '.' *> keyName)
  let names := first :: others
  guard (names.length < depthLimit)
  return { path := names.dropLast, name := names.getLastD first }

end StyledText.Toml
