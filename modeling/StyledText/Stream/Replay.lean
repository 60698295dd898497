import StyledText.Stream.Basic

/-!
# Replay

To replay a stream is to go through its commands in order and to put in place of every index what it
stands for: the registered resource or source, and for a run of text the run itself.  Each command
becomes one event.  Replay ends at the first command that cannot be resolved, and says why.

Runs are cut from the **current text**: the present text of the source that the last change of
source named, and before the first change the text that the stream was given.
-/

namespace StyledText

/-- A command with all that it refers to. -/
inductive Event (α : Type) where
  | block (info : BlockInfo)
  | line (info : LineInfo)
  | text (run : TextRun) (content : String)
  | icon (run : IconRun) (value : α)
  | hyphen (bounds : Rect)
  | toggleBold
  | toggleItalic
  | pushStyle (value : α)
  | pushFont (value : α)
  | pushColor (color : Color)
  | pushGlyphShader (value : α)
  | popStyle
  | popFont
  | popColor
  | popGlyphShader
  | sourceChanged (source : Source)
deriving DecidableEq, Repr

/-- The source that an event makes the current one. -/
def Event.source? {α : Type} : Event α → Option Source
  | .sourceChanged source => some source
  | _ => none

/-- The events of a replay, and the fault that ended it, if one did. -/
structure Replay (α : Type) where
  events : List (Event α) := []
  /-- Why the command after them could not be resolved. -/
  fault : Option StreamError := none
deriving DecidableEq, Repr

/-- The replay with an event in front. -/
def Replay.cons {α : Type} (event : Event α) (replay : Replay α) : Replay α :=
  { replay with events := event :: replay.events }

namespace Stream

variable {α : Type}

/-- The text that runs are cut from while a source, or none, is the current one. -/
def currentText? (s : Stream α) (store : SourceStore) : Option Source → Option String
  | some source => some (store.text source)
  | none => s.sourceText.map (·.text)

/-- The characters of a run. -/
def runText? (s : Stream α) (store : SourceStore) (current : Option Source) (run : TextRun) :
    Option String :=
  match run.range?, s.currentText? store current with
  | some (start, stop), some text => Text.cut? start stop text
  | _, _ => none

def lookUp (s : Stream α) (kind : ResourceKind) (index : UInt32) : Except StreamError α :=
  match (s.resources.of kind).get? index.toNat with
  | some value => .ok value
  | none => .error (.unknownResource (.resource kind) index)

def lookUpSource (s : Stream α) (index : UInt32) : Except StreamError Source :=
  match s.sources.get? index.toNat with
  | some source => .ok source
  | none => .error (.unknownResource .source index)

def resolve (s : Stream α) (store : SourceStore) (current : Option Source) :
    Command → Except StreamError (Event α)
  | .blockInfo info => .ok (.block info)
  | .lineInfo info => .ok (.line info)
  | .text run =>
    match s.runText? store current run with
    | some content => .ok (.text run content)
    | none => .error (.invalidTextRun run.offset run.length)
  | .icon run => (s.lookUp .icon run.icon).map (.icon run)
  | .toggleBold => .ok .toggleBold
  | .toggleItalic => .ok .toggleItalic
  | .pushStyle index => (s.lookUp .style index).map .pushStyle
  | .pushFont index => (s.lookUp .font index).map .pushFont
  | .pushColor color => .ok (.pushColor color)
  | .pushGlyphShader index => (s.lookUp .glyphShader index).map .pushGlyphShader
  | .popStyle => .ok .popStyle
  | .popFont => .ok .popFont
  | .popColor => .ok .popColor
  | .popGlyphShader => .ok .popGlyphShader
  | .changeSourceString index | .changeSourceStringBuilder index =>
    (s.lookUpSource index).map .sourceChanged
  | .hyphen bounds => .ok (.hyphen bounds)

/-- Replays commands, with a source or none as the current one at first. -/
def replayFrom (s : Stream α) (store : SourceStore) :
    Option Source → List (Except StreamError Command) → Replay α
  | _, [] => {}
  | _, .error e :: _ => { fault := some e }
  | current, .ok c :: commands =>
    match s.resolve store current c with
    | .error e => { fault := some e }
    | .ok event => (s.replayFrom store (event.source?.or current) commands).cons event

/-- Replays all commands of the stream.  The store tells the present texts of the sources. -/
def replay (s : Stream α) (store : SourceStore) : Replay α := s.replayFrom store none s.commands

end Stream

end StyledText
