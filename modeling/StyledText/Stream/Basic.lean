import StyledText.RecordBuffer.Walk
import StyledText.Registry
import StyledText.Settings
import StyledText.Source
import StyledText.Text.Segment

/-!
# Command streams

A `Stream` is what a layout engine leaves for a renderer: the records of its commands, the resources
and sources that the commands name by index, and the settings and measures of the layout.  The
layout engine writes; the renderer seeks and reads with the one cursor that the stream has.

By convention the first command opens the block, and lines start behind it.  The lines of a stream
are sought in `StyledText.Stream.Lines`, and its commands are replayed in
`StyledText.Stream.Replay`.
-/

namespace StyledText

open Number

/-- Named resources of each kind, with values of type `α`. -/
structure Resources (α : Type) where
  styles : Registry α := .empty
  fonts : Registry α := .empty
  icons : Registry α := .empty
  glyphShaders : Registry α := .empty
deriving DecidableEq, Repr

namespace Resources

variable {α : Type}

def of (r : Resources α) : ResourceKind → Registry α
  | .style => r.styles
  | .font => r.fonts
  | .icon => r.icons
  | .glyphShader => r.glyphShaders

def set (r : Resources α) (kind : ResourceKind) (registry : Registry α) : Resources α :=
  match kind with
  | .style => { r with styles := registry }
  | .font => { r with fonts := registry }
  | .icon => { r with icons := registry }
  | .glyphShader => { r with glyphShaders := registry }

@[simp] theorem of_set_self (r : Resources α) (kind : ResourceKind) (registry : Registry α) :
    (r.set kind registry).of kind = registry := by
  cases kind <;> rfl

theorem of_set_of_ne (r : Resources α) {kind other : ResourceKind} (registry : Registry α)
    (h : other ≠ kind) : (r.set kind registry).of other = r.of other := by
  cases kind <;> cases other <;> first | rfl | exact absurd rfl h

end Resources

/-- The measures of a finished layout. -/
structure LayoutMetrics where
  bounds : Rect := .zero
  width : Binary32 := .zero
  height : Binary32 := .zero
  totalLength : Nat := 0
deriving DecidableEq, Repr

namespace LayoutMetrics

instance : Inhabited LayoutMetrics := ⟨{}⟩

def sameValue (m n : LayoutMetrics) : Bool :=
  m.bounds.sameValue n.bounds && m.width.sameValue n.width && m.height.sameValue n.height &&
    m.totalLength == n.totalLength

end LayoutMetrics

/-- A line that was opened and whose length is still to be filled in. -/
structure LineMark where
  /-- Where the record of the line stands. -/
  place : Cursor
  /-- The line as it was written, with length zero. -/
  info : LineInfo
  /-- How often the stream had been cleared. -/
  generation : Nat
deriving DecidableEq, Repr

/-- The commands of a layout with all that they refer to.  Resources have values of type `α`. -/
structure Stream (α : Type) where
  buffer : RecordBuffer := .empty
  lineCount : Nat := 0
  /-- How often the stream was cleared. -/
  generation : Nat := 0
  resources : Resources α := {}
  sources : SourceRegistry := .empty
  settings : LayoutSettings := {}
  /-- Which parts of the markup are read. -/
  parserOptions : ParserOptions := {}
  /-- The text that runs are cut from before the first change of source. -/
  sourceText : Option Text.Segment := none
  metrics : LayoutMetrics := {}

namespace Stream

variable {α : Type}

def empty : Stream α := {}

instance : EmptyCollection (Stream α) := ⟨empty⟩

instance : Inhabited (Stream α) := ⟨empty⟩

/-- A stream without commands that starts with the given settings. -/
def ofConfig (config : StreamConfig) : Stream α :=
  { settings := config.layout, parserOptions := config.parser }

def commandCount (s : Stream α) : Nat := s.buffer.count

def position (s : Stream α) : Nat := s.buffer.cursor.index

def commands (s : Stream α) : List (Except StreamError Command) := s.buffer.commands

def moveTo (s : Stream α) (place : Cursor) : Stream α := { s with buffer := s.buffer.moveTo place }

/-! ### Writing -/

/-- Appends a command and moves the cursor to the end. -/
def write (s : Stream α) (c : Command) : Stream α :=
  { s with
    buffer := s.buffer.write c
    lineCount := if c.kind = .lineInfo then s.lineCount + 1 else s.lineCount }

/-- Opens a line of unknown length: a mark for `endLine`, and the stream after. -/
def beginLine (s : Stream α) (info : LineInfo) : LineMark × Stream α :=
  let info := { info with lengthInCommands := 0 }
  ({ place := s.buffer.endCursor, info, generation := s.generation }, s.write (.lineInfo info))

/-- Fills in the length of the line that a mark stands for: the number of commands behind it, as a
word.  A mark from before the last clearing is refused. -/
def endLine (s : Stream α) (mark : LineMark) : Except StreamError (Stream α) :=
  if mark.generation ≠ s.generation then .error (.staleLineMark mark.place.index)
  else if s.buffer.count < mark.place.index + 1 then
    .error (.indexOutOfRange mark.place.index s.buffer.count)
  else
    let length := s.buffer.count - (mark.place.index + 1)
    let info := { mark.info with lengthInCommands := UInt32.ofNat length }
    match s.buffer.overwrite mark.place (.lineInfo info) with
    | .error e => .error e
    | .ok buffer => .ok { s with buffer }

/-- Registers a source and appends the command that makes it the current one: the index of the
source, and the stream after. -/
def changeSource (s : Stream α) (source : Source) : Nat × Stream α :=
  let (index, sources) := s.sources.register source
  let word := UInt32.ofNat index
  let command :=
    if source.isBuilder then .changeSourceStringBuilder word else .changeSourceString word
  (index, { s with sources }.write command)

/-! ### Reading -/

/-- The kind of the command at the cursor, `none` at the end. -/
def currentKind (s : Stream α) : Except StreamError (Option Command.Kind) := s.buffer.currentKind

def peek (s : Stream α) : Except StreamError Command := s.buffer.current

/-- The command at the cursor, and the stream with the cursor behind it. -/
def readCommand (s : Stream α) : Except StreamError (Command × Stream α) :=
  match s.buffer.current with
  | .error e => .error e
  | .ok c =>
    match s.buffer.advance with
    | .error e => .error e
    | .ok (_, buffer) => .ok (c, { s with buffer })

/-- The command at the cursor, which must be of the given kind, and the stream with the cursor
behind it. -/
def read (s : Stream α) (expected : Command.Kind) : Except StreamError (Command × Stream α) :=
  match s.buffer.currentKind with
  | .error e => .error e
  | .ok none => .error .endOfStream
  | .ok (some found) =>
    if found ≠ expected then .error (.kindMismatch expected found s.position) else s.readCommand

/-! ### Seeking -/

/-- Moves the cursor past the command that it stands before: whether there was one. -/
def seekNextCommand (s : Stream α) : Except StreamError (Bool × Stream α) :=
  match s.buffer.advance with
  | .error e => .error e
  | .ok (moved, buffer) => .ok (moved, { s with buffer })

/-- Moves the cursor to the command of an index: the kind there, `none` at the end, and the stream
after. -/
def seek (s : Stream α) (index : Nat) : Except StreamError (Option Command.Kind) × Stream α :=
  let (fault, buffer) := s.buffer.seek index
  let s := { s with buffer }
  match fault with
  | some e => (.error e, s)
  | none => (s.currentKind, s)

/-! ### Resources and settings -/

def register (s : Stream α) (kind : ResourceKind) (name : String) (value : α) : Nat × Stream α :=
  let (index, registry) := (s.resources.of kind).register name value
  (index, { s with resources := s.resources.set kind registry })

def registerSource (s : Stream α) (source : Source) : Nat × Stream α :=
  let (index, sources) := s.sources.register source
  (index, { s with sources })

/-- Forgets everything but how often it was cleared, which is once more. -/
def clear (s : Stream α) : Stream α := { generation := s.generation + 1 }

end Stream

end StyledText
