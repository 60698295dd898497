import StyledText.Stream.Lines
import StyledText.Stream.Replay

/-!
# Operations on streams

All that can be done to a stream, as data.  `Stream.perform` does one operation and gives its
outcome and the stream after; `Stream.run` does several in a row.  An operation that cannot answer
with what was asked for answers with a fault.

The texts of the sources live outside the stream, so an operation that needs them brings them along.
-/

namespace StyledText

/-- One operation on a stream whose resources have values of type `α`. -/
inductive Operation (α : Type) where
  | write (command : Command)
  | beginLine (info : LineInfo)
  | endLine (mark : LineMark)
  | changeSource (source : Source)
  | read (kind : Command.Kind)
  | readCommand
  | peek
  | currentKind
  | commands
  | seek (index : Nat)
  | seekLine (line : Nat)
  | seekNextCommand
  | seekNextLine
  | register (kind : ResourceKind) (name : String) (value : α)
  | registerSource (source : Source)
  | resource (kind : ResourceKind) (index : Nat)
  | resourceNamed (kind : ResourceKind) (name : String)
  | source (index : Nat)
  | setSettings (settings : LayoutSettings)
  | setParserOptions (options : ParserOptions)
  | setSourceText (text : Text.Segment)
  | setMetrics (metrics : LayoutMetrics)
  | replay (store : SourceStore)
  | clear

/-- What an operation answers. -/
inductive Outcome (α : Type) where
  | done
  | fault (error : StreamError)
  | index (index : Nat)
  | mark (mark : LineMark)
  | command (command : Command)
  | kind (kind : Option Command.Kind)
  | truth (value : Bool)
  | commands (commands : List (Except StreamError Command))
  | resource (value : Option α)
  | source (source : Option Source)
  | replay (replay : Replay α)

/-- The outcome of something that can fail. -/
def Outcome.ofExcept {α β : Type} (f : β → Outcome α) : Except StreamError β → Outcome α
  | .ok value => f value
  | .error e => .fault e

namespace Stream

variable {α : Type}

/-- The outcome and the stream after of something that leaves the stream as it is when it fails. -/
def orUnchanged {β : Type} (s : Stream α) (f : β → Outcome α) :
    Except StreamError (β × Stream α) → Outcome α × Stream α
  | .ok (value, after) => (f value, after)
  | .error e => (.fault e, s)

/-- Does one operation: its outcome, and the stream after. -/
def perform (s : Stream α) : Operation α → Outcome α × Stream α
  | .write command => (.done, s.write command)
  | .beginLine info => let (mark, after) := s.beginLine info; (.mark mark, after)
  | .endLine mark => s.orUnchanged (fun _ => .done) ((s.endLine mark).map ((), ·))
  | .changeSource source => let (index, after) := s.changeSource source; (.index index, after)
  | .read kind => s.orUnchanged .command (s.read kind)
  | .readCommand => s.orUnchanged .command s.readCommand
  | .peek => (.ofExcept .command s.peek, s)
  | .currentKind => (.ofExcept .kind s.currentKind, s)
  | .commands => (.commands s.commands, s)
  | .seek index => let (kind, after) := s.seek index; (.ofExcept .kind kind, after)
  | .seekLine line => s.orUnchanged (fun _ => .done) ((s.seekLine line).map ((), ·))
  | .seekNextCommand => s.orUnchanged .truth s.seekNextCommand
  | .seekNextLine => let (more, after) := s.seekNextLine; (.ofExcept .truth more, after)
  | .register kind name value =>
    let (index, after) := s.register kind name value
    (.index index, after)
  | .registerSource source => let (index, after) := s.registerSource source; (.index index, after)
  | .resource kind index => (.resource ((s.resources.of kind).get? index), s)
  | .resourceNamed kind name => (.resource ((s.resources.of kind).find? name), s)
  | .source index => (.source (s.sources.get? index), s)
  | .setSettings settings => (.done, { s with settings })
  | .setParserOptions parserOptions => (.done, { s with parserOptions })
  | .setSourceText text => (.done, { s with sourceText := some text })
  | .setMetrics metrics => (.done, { s with metrics })
  | .replay store => (.replay (s.replay store), s)
  | .clear => (.done, s.clear)

/-- Does operations in a row: their outcomes, and the stream after the last. -/
def run (s : Stream α) : List (Operation α) → List (Outcome α) × Stream α
  | [] => ([], s)
  | operation :: operations =>
    let (outcome, after) := s.perform operation
    let (outcomes, last) := after.run operations
    (outcome :: outcomes, last)

/-- Operations in two parts are done one part after the other. -/
theorem run_append (s : Stream α) (first second : List (Operation α)) :
    s.run (first ++ second) =
      ((s.run first).1 ++ ((s.run first).2.run second).1, ((s.run first).2.run second).2) := by
  induction first generalizing s with
  | nil => rfl
  | cons operation operations ih =>
    show (_ :: ((s.perform operation).2.run (operations ++ second)).1,
      ((s.perform operation).2.run (operations ++ second)).2) = _
    rw [ih]
    rfl

end Stream

end StyledText
