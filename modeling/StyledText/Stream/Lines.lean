import StyledText.Stream.Basic

/-!
# Seeking lines

A line is opened by a command that tells how many commands follow until the next one, so the lines
of a stream form a chain that starts behind the block at command 1.  `seekLine` follows that chain,
and `seekNextLine` takes one step on it, or looks for the next line command by command when the
cursor stands inside a line.

The lengths in the chain are taken as they are written.  `seekLine` that meets a command of another
kind, or the end, reports it and leaves the cursor where it was.
-/

namespace StyledText.RecordBuffer

/-- The line that the command at a place opens. -/
def lineAt (b : RecordBuffer) (place : Cursor) : Except StreamError LineInfo :=
  match b.commandAt place with
  | .error e => .error e
  | .ok (.lineInfo info) => .ok info
  | .ok c => .error (.kindMismatch .lineInfo c.kind place.index)

/-- Passes the line that starts at a place, as long as its length tells. -/
def passLine (b : RecordBuffer) (place : Cursor) : Walk :=
  match b.lineAt place with
  | .error e => { place, fault := some e }
  | .ok info => b.skipFrom place (1 + info.lengthInCommands.toNat)

/-- The place `n` lines on in the chain of lines. -/
def followLines (b : RecordBuffer) : Nat → Cursor → Except StreamError Cursor
  | 0, place => .ok place
  | n + 1, place =>
    match (b.passLine place).toExcept with
    | .error e => .error e
    | .ok next => b.followLines n next

/-- The place behind the command that opens a line. -/
def placeOfLine (b : RecordBuffer) (line : Nat) : Except StreamError Cursor := do
  let first ← (b.seekFrom b.cursor 1).toExcept
  let start ← b.followLines line first
  let _ ← b.lineAt start
  let next ← b.next? start
  return next.getD start

/-- The walk to the next line: past the line that starts at the cursor, or else to the next command
that opens one. -/
def walkToNextLine (b : RecordBuffer) : Except StreamError (Option Walk) :=
  match b.currentKind with
  | .error e => .error e
  | .ok none => .ok none
  | .ok (some .lineInfo) => .ok (some (b.passLine b.cursor))
  | .ok (some kind) =>
    .ok (some (b.walkToKind .lineInfo (b.count - (b.cursor.index + 1)) (b.cursor.past kind)))

end StyledText.RecordBuffer

namespace StyledText.Stream

variable {α : Type}

/-- Moves the cursor behind the command that opens a line. -/
def seekLine (s : Stream α) (line : Nat) : Except StreamError (Stream α) :=
  if s.lineCount ≤ line then .error (.lineOutOfRange line s.lineCount)
  else
    match s.buffer.placeOfLine line with
    | .error e => .error e
    | .ok place => .ok (s.moveTo place)

/-- Moves the cursor to the next line, or to the end when there is none: whether the command at the
cursor is then followed by another, and the stream after. -/
def seekNextLine (s : Stream α) : Except StreamError Bool × Stream α :=
  match s.buffer.walkToNextLine with
  | .error e => (.error e, s)
  | .ok none => (.ok false, s)
  | .ok (some w) =>
    let s := s.moveTo w.place
    match w.fault with
    | some e => (.error e, s)
    | none => (.ok (s.position + 1 < s.commandCount), s)

end StyledText.Stream
