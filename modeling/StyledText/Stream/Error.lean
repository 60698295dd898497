import StyledText.Command.Kind

/-!
# Faults of a command stream

What can go wrong while commands are sought, read, patched and replayed.  Each fault carries what
its message tells.
-/

namespace StyledText

/-- The kinds of thing that a command can name by an index. -/
inductive ResourceKind where
  | style
  | font
  | icon
  | glyphShader
deriving DecidableEq, Repr

/-- What an index that leads nowhere was to name. -/
inductive Reference where
  | resource (kind : ResourceKind)
  | source
deriving DecidableEq, Repr

def Reference.name : Reference → String
  | .resource .style => "style"
  | .resource .font => "font"
  | .resource .icon => "icon"
  | .resource .glyphShader => "glyph shader"
  | .source => "source"

/-- Why an operation on a command stream failed. -/
inductive StreamError where
  /-- The target is beyond the last command. -/
  | indexOutOfRange (index count : Nat)
  | lineOutOfRange (line lineCount : Nat)
  /-- A command is of another kind than is needed there. -/
  | kindMismatch (expected found : Command.Kind) (index : Nat)
  | endOfStream
  /-- The line mark was taken before the stream was last cleared. -/
  | staleLineMark (index : Nat)
  | invalidCommand (tag : UInt8)
  | unexpectedEnd
  | unknownResource (reference : Reference) (index : UInt32)
  | invalidTextRun (offset length : UInt32)
  /-- The place lies outside the bytes, where no record was ever written. -/
  | outOfBounds
deriving DecidableEq, Repr

namespace StreamError

/-- A byte as two upper-case hexadecimal digits. -/
def hexByte (b : UInt8) : String :=
  let digits := (Nat.toDigits 16 b.toNat).map Char.toUpper
  String.ofList (List.replicate (2 - digits.length) '0' ++ digits)

def message : StreamError → String
  | .indexOutOfRange index count =>
    "command index " ++ toString index ++ " out of range (stream holds " ++ toString count ++
      " commands)"
  | .lineOutOfRange line lineCount =>
    "line " ++ toString line ++ " out of range (stream holds " ++ toString lineCount ++ " lines)"
  | .kindMismatch expected found index =>
    "expected " ++ expected.name ++ " at command " ++ toString index ++ ", found " ++ found.name
  | .endOfStream => "cursor is at the end of the stream"
  | .staleLineMark index =>
    "line mark at command " ++ toString index ++ " was taken before the stream was cleared"
  | .invalidCommand tag => "invalid command tag 0x" ++ hexByte tag
  | .unexpectedEnd => "unexpected end of command data"
  | .unknownResource reference index =>
    "no " ++ reference.name ++ " registered at index " ++ toString index
  | .invalidTextRun offset length =>
    "text run " ++ toString offset ++ "+" ++ toString length ++ " is outside the current source"
  | .outOfBounds => "position outside the command data"

end StreamError

end StyledText
