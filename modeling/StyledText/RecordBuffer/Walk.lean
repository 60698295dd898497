import StyledText.RecordBuffer.Basic

/-!
# Walking over records

Seeking goes from record to record and reads only their tags.  A `Walk` says where that ended and
which fault broke it off, if one did; then the place is where the fault was met, some records on.
On bytes that are the records written no walk breaks off.

* `walk n place` passes `n` records;
* `skip` and `seek` check the target against the number of records before they walk, so a target out
  of range leaves the cursor where it was;
* `walkToKind` passes records up to the first of a kind.
-/

namespace StyledText

/-- Where a walk over records ended, and the fault that broke it off. -/
structure Walk where
  /-- The last place reached. -/
  place : Cursor
  /-- What kept the walk from its goal. -/
  fault : Option StreamError := none
deriving DecidableEq, Repr

/-- The place that a walk was to reach, or the fault. -/
def Walk.toExcept (w : Walk) : Except StreamError Cursor :=
  match w.fault with
  | none => .ok w.place
  | some e => .error e

namespace RecordBuffer

def walk (b : RecordBuffer) : Nat → Cursor → Walk
  | 0, place => { place }
  | n + 1, place =>
    match b.kindAt place with
    | .error e => { place, fault := some e }
    | .ok kind => b.walk n (place.past kind)

/-- Passes at most `n` records, up to the first of the given kind. -/
def walkToKind (b : RecordBuffer) (goal : Command.Kind) : Nat → Cursor → Walk
  | 0, place => { place }
  | n + 1, place =>
    match b.kindAt place with
    | .error e => { place, fault := some e }
    | .ok kind => if kind = goal then { place } else b.walkToKind goal n (place.past kind)

/-- Passes `n` records from a place, which must not lead beyond the end.

The number of the target has no bound here: past what a machine word holds it is out of range like
any other beyond the end, where a sum of words would wrap around and either break off or pass for a
target that is reached already.  The place stays where it is in all of these cases. -/
def skipFrom (b : RecordBuffer) (place : Cursor) (n : Nat) : Walk :=
  let target := place.index + n
  if b.count < target then { place, fault := some (.indexOutOfRange target b.count) }
  else b.walk n place

/-- Goes from a place to the record of an index: onward, or from the start when the place is already
past it. -/
def seekFrom (b : RecordBuffer) (place : Cursor) (index : Nat) : Walk :=
  if b.count < index then { place, fault := some (.indexOutOfRange index b.count) }
  else
    let start := if index < place.index then {} else place
    b.skipFrom start (index - start.index)

/-- The place behind the record at a place, `none` at the end. -/
def next? (b : RecordBuffer) (place : Cursor) : Except StreamError (Option Cursor) :=
  (b.kindAt? place).map fun kind => kind.map place.past

/-! ### Moving the cursor -/

/-- What became of a walk, and the buffer with the cursor where the walk ended. -/
def follow (b : RecordBuffer) (w : Walk) : Option StreamError × RecordBuffer :=
  (w.fault, b.moveTo w.place)

/-- Moves the cursor past the record that it stands before: whether there was one. -/
def advance (b : RecordBuffer) : Except StreamError (Bool × RecordBuffer) :=
  match b.next? b.cursor with
  | .error e => .error e
  | .ok none => .ok (false, b)
  | .ok (some place) => .ok (true, b.moveTo place)

/-- Moves the cursor past `n` records. -/
def skip (b : RecordBuffer) (n : Nat) : Option StreamError × RecordBuffer :=
  b.follow (b.skipFrom b.cursor n)

/-- Moves the cursor to the record of an index. -/
def seek (b : RecordBuffer) (index : Nat) : Option StreamError × RecordBuffer :=
  b.follow (b.seekFrom b.cursor index)

end RecordBuffer

end StyledText
