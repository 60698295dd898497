import StyledText.Toml.Draft
import StyledText.Toml.Number

/-!
# Documents

A TOML document consists of lines: headers that tell which table the following lines fill, and keys
with their values.  `Line.readAll?` reads the lines and `Document.ofLines?` puts their tables
together.
-/

namespace StyledText.Toml

open Reader

/-! ### Values -/

/-- Values between brackets.  They may go over several lines and end with a comma. -/
def array (value : Reader Value) : Reader Value := do
  char '['
  let items ← separated (gaps *> value <* gaps) (char ',')
  if !items.isEmpty then
    let _ ← optional (char ',')
  gaps
  char ']'
  return .array items

/-- A key with its value. -/
def pair (value : Reader Value) : Reader (Key × Value) := do
  let k ← key
  char '='
  spaces
  return (k, ← value)

/-- Keys with their values between braces, all on one line. -/
def inlineTable (value : Reader Value) : Reader Value := do
  char '\x7b'
  let pairs ← separated (pair value <* spaces) (char ',')
  spaces
  char '\x7d'
  ofOption (Draft.ofPairs? pairs)

/-- A value with others at most `depth` deep inside. -/
def valueWithin : Nat → Reader Value
  | 0 => scalar
  | depth + 1 => scalar <|> array (valueWithin depth) <|> inlineTable (valueWithin depth)

def value : Reader Value := valueWithin (depthLimit - 1)

/-! ### Lines -/

/-- A line that says something. -/
inductive Line where
  | header (key : Key)
  | nextHeader (key : Key)
  | pair (key : Key) (value : Value)

namespace Line

/-- The header of a table in an array. -/
def readNextHeader : Reader Line := do
  word "[["
  let k ← key
  word "]]"
  lineEnd
  return .nextHeader k

/-- The header of a table. -/
def readHeader : Reader Line := do
  char '['
  let k ← key
  char ']'
  lineEnd
  return .header k

/-- A key with its value. -/
def readPair : Reader Line := do
  let (k, v) ← Toml.pair value
  lineEnd
  return .pair k v

/-- A line that says nothing. -/
def readBlank : Reader Unit := (comment *> (lineBreak <|> atEnd)) <|> lineBreak

/-- One line, and the blanks in front of the next. -/
def read : Reader (Option Line) :=
  ((readBlank *> pure none) <|> some <$> (readNextHeader <|> readHeader <|> readPair)) <* spaces

/-- The lines of a document.  A byte order mark in front is passed over. -/
def readAll? (s : String) : Option (List Line) :=
  let lines : Reader (List Line) := do
    let _ ← optional (char '\uFEFF')
    spaces
    return (← many read).filterMap id
  lines.readAll? s

end Line

/-! ### Tables -/

/-- A document under construction. -/
structure Document where
  root : Draft := {}
  /-- The names that lead to the table that is being filled. -/
  current : List String := []

namespace Document

/-- The document with one more line. -/
def add? (d : Document) : Line → Option Document
  | .header k => (d.root.declare k).map fun root => { root, current := k.names }
  | .nextHeader k => (d.root.declareNext k).map fun root => { root, current := k.names }
  | .pair k v =>
    (d.root.update .passed (Draft.insert k v) d.current).map fun root => { d with root }

def ofLines? (lines : List Line) : Option Document := lines.foldlM add? {}

end Document

/-- The table that a text spells. -/
def read? (s : String) : Option Value :=
  (Line.readAll? s).bind fun lines => (Document.ofLines? lines).map fun d => d.root.toValue

end StyledText.Toml
