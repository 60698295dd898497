import StyledText.RecordBuffer.Walk

/-!
# Operations on record buffers

All that can be done to a record buffer, as data.  `RecordBuffer.perform` does one operation and
gives its outcome and the buffer after; `RecordBuffer.run` does several in a row.

Nothing ties the places that are restored and overwritten to records: a cursor can be put to any
place, be it one that was left long ago, and a record can be written into the middle of others.
-/

namespace StyledText.RecordBuffer

/-- One operation on a record buffer. -/
inductive Operation where
  | write (command : Command)
  | overwrite (place : Cursor) (command : Command)
  /-- Puts the cursor to a place; the start of the buffer is one. -/
  | restore (place : Cursor)
  | advance
  | skip (n : Nat)
  | seek (index : Nat)
  | currentKind
  | current
  | currentRecord
  | commands
  | clear
deriving DecidableEq

/-- What an operation on a record buffer answers. -/
inductive Outcome where
  | done
  | fault (error : StreamError)
  | truth (value : Bool)
  | kind (kind : Option Command.Kind)
  | command (command : Command)
  | record (bytes : Option (List UInt8))
  | commands (commands : List (Except StreamError Command))

/-- The outcome of a walk that a fault may have broken off. -/
def Outcome.ofFault : Option StreamError → Outcome
  | none => .done
  | some e => .fault e

/-- The outcome of something that can fail. -/
def Outcome.ofExcept.{u} {β : Type u} (f : β → Outcome) : Except StreamError β → Outcome
  | .ok value => f value
  | .error e => .fault e

/-- Does one operation: its outcome, and the buffer after. -/
def perform (b : RecordBuffer) : Operation → Outcome × RecordBuffer
  | .write command => (.done, b.write command)
  | .overwrite place command =>
    match b.overwrite place command with
    | .ok after => (.done, after)
    | .error e => (.fault e, b)
  | .restore place => (.done, b.moveTo place)
  | .advance =>
    match b.advance with
    | .ok (moved, after) => (.truth moved, after)
    | .error e => (.fault e, b)
  | .skip n => let (fault, after) := b.skip n; (.ofFault fault, after)
  | .seek index => let (fault, after) := b.seek index; (.ofFault fault, after)
  | .currentKind => (.ofExcept .kind b.currentKind, b)
  | .current => (.ofExcept .command b.current, b)
  | .currentRecord => (.record b.currentRecord?, b)
  | .commands => (.commands b.commands, b)
  | .clear => (.done, .empty)

/-- Does operations in a row: the buffer after the last. -/
def run (b : RecordBuffer) : List Operation → RecordBuffer
  | [] => b
  | operation :: operations => (b.perform operation).2.run operations

end StyledText.RecordBuffer
