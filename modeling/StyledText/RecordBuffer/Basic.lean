import StyledText.Command.Record

/-!
# Record buffers

A `RecordBuffer` holds the records of commands one after another, counts them, and has a cursor.
Records differ in length, so a cursor keeps both the number of the record before which it stands and
the byte offset where that record starts.  Writing appends a record and moves the cursor to the end.

A record can be overwritten in place by another of its kind.  The place is given by a cursor, and
nothing forces it to be the start of a record; after a write into the middle of a record the bytes
may spell anything.  Reading copes: `decodeAll` gives the commands up to the first fault, and the
fault.
-/

namespace StyledText

/-- A place in a record buffer. -/
structure Cursor where
  /-- The number of records before the place. -/
  index : Nat := 0
  /-- The number of bytes before the place. -/
  offset : Nat := 0
deriving DecidableEq, Repr, Inhabited

/-- The place behind a record of the given kind. -/
def Cursor.past (place : Cursor) (kind : Command.Kind) : Cursor :=
  ⟨place.index + 1, place.offset + kind.recordLength⟩

/-- Records in a row, with a cursor. -/
structure RecordBuffer where
  bytes : List UInt8 := []
  count : Nat := 0
  /-- The place at which the next command is read. -/
  cursor : Cursor := {}
deriving DecidableEq, Repr

/-- The commands whose records fill a list of bytes, in order; a fault ends the list. -/
def Command.decodeAll (bytes : List UInt8) : List (Except StreamError Command) :=
  match bytes with
  | [] => []
  | tag :: rest =>
    match Command.decode (tag :: rest) with
    | .error e => [.error e]
    | .ok c => .ok c :: decodeAll (rest.drop c.kind.payloadLength)
termination_by bytes.length
decreasing_by
  simp only [List.length_drop, List.length_cons]
  omega

namespace RecordBuffer

def empty : RecordBuffer := {}

instance : EmptyCollection RecordBuffer := ⟨empty⟩

instance : Inhabited RecordBuffer := ⟨empty⟩

def isEmpty (b : RecordBuffer) : Bool := b.count == 0

/-- The place behind the last record. -/
def endCursor (b : RecordBuffer) : Cursor := ⟨b.count, b.bytes.length⟩

/-- Whether no record stands at a place, which is then at or beyond the end. -/
def isEnd (b : RecordBuffer) (place : Cursor) : Bool := b.count ≤ place.index

/-- Whether the cursor is at the end. -/
def atEnd (b : RecordBuffer) : Bool := b.isEnd b.cursor

/-- Appends the record of a command and moves the cursor to the end. -/
def write (b : RecordBuffer) (c : Command) : RecordBuffer :=
  let bytes := b.bytes ++ c.toBytes
  { bytes, count := b.count + 1, cursor := ⟨b.count + 1, bytes.length⟩ }

/-- Moves the cursor to any place, be it a record's start or not. -/
def moveTo (b : RecordBuffer) (place : Cursor) : RecordBuffer := { b with cursor := place }

/-! ### Looking at one place -/

/-- The kind that the byte at a place is the tag of. -/
def kindAt (b : RecordBuffer) (place : Cursor) : Except StreamError Command.Kind :=
  match b.bytes[place.offset]? with
  | none => .error .unexpectedEnd
  | some tag =>
    match Command.Kind.ofTag? tag with
    | none => .error (.invalidCommand tag)
    | some kind => .ok kind

/-- The kind of the record at a place, `none` at the end. -/
def kindAt? (b : RecordBuffer) (place : Cursor) : Except StreamError (Option Command.Kind) :=
  if b.isEnd place then .ok none else (b.kindAt place).map some

/-- The command whose record stands at a place.  A place beyond the bytes has none to decode. -/
def commandAt (b : RecordBuffer) (place : Cursor) : Except StreamError Command :=
  if b.isEnd place then .error .endOfStream
  else if b.bytes.length < place.offset then .error .outOfBounds
  else Command.decode (b.bytes.drop place.offset)

/-- The kind of the record at the cursor, `none` at the end. -/
def currentKind (b : RecordBuffer) : Except StreamError (Option Command.Kind) := b.kindAt? b.cursor

def current (b : RecordBuffer) : Except StreamError Command := b.commandAt b.cursor

/-- The bytes of the record at the cursor, when there is one and it is whole. -/
def currentRecord? (b : RecordBuffer) : Option (List UInt8) :=
  match b.currentKind with
  | .ok (some kind) =>
    let record := (b.bytes.drop b.cursor.offset).take kind.recordLength
    if record.length = kind.recordLength then some record else none
  | _ => none

/-- Puts the record of a command in place of one of the same kind. -/
def overwrite (b : RecordBuffer) (place : Cursor) (c : Command) : Except StreamError RecordBuffer :=
  match b.kindAt place with
  | .error e => .error e
  | .ok found =>
    if found ≠ c.kind then .error (.kindMismatch c.kind found place.index)
    else if b.bytes.length < place.offset + found.recordLength then .error .outOfBounds
    else
      .ok { b with
        bytes := b.bytes.take place.offset ++ c.toBytes ++
          b.bytes.drop (place.offset + found.recordLength) }

/-! ### Looking at all records -/

/-- The commands of all records, in order, wherever the cursor stands. -/
def commands (b : RecordBuffer) : List (Except StreamError Command) := Command.decodeAll b.bytes

end RecordBuffer

end StyledText
