import StyledText.Command.Kind
import StyledText.Color
import StyledText.Rect

/-!
# Commands

A layout is a sequence of commands.  A block and its lines are opened by commands that carry their
measures; runs of text and icons carry the rectangle that they fill; styles, fonts, icons, glyph
shaders and sources are named by the index under which they are registered.
-/

namespace StyledText

open Number

/-- The measures of a block of text. -/
structure BlockInfo where
  width : Binary32 := .zero
  height : Binary32 := .zero
  lineCount : UInt32 := 0
  textLength : UInt32 := 0
deriving DecidableEq, Repr

/-- The measures of a line. -/
structure LineInfo where
  /-- How many commands follow until the next line. -/
  lengthInCommands : UInt32 := 0
  lineNumber : UInt32 := 0
  bounds : Rect := .zero
  /-- The distance of the baseline from the upper edge. -/
  baseline : Binary32 := .zero
deriving DecidableEq, Repr

/-- A run of the current source text. -/
structure TextRun where
  /-- The byte offset of the run in the source. -/
  offset : UInt32 := 0
  length : UInt32 := 0
  bounds : Rect := .zero
deriving DecidableEq, Repr

/-- The byte offsets at which a run starts and ends, when both fit 32 bits. -/
def TextRun.range? (run : TextRun) : Option (Nat × Nat) :=
  let stop := run.offset.toNat + run.length.toNat
  if stop < UInt32.size then some (run.offset.toNat, stop) else none

/-- An icon in the text. -/
structure IconRun where
  icon : UInt32 := 0
  bounds : Rect := .zero
deriving DecidableEq, Repr

/-- One step of a layout. -/
inductive Command where
  | blockInfo (info : BlockInfo)
  | lineInfo (info : LineInfo)
  | text (run : TextRun)
  | icon (run : IconRun)
  | toggleBold
  | toggleItalic
  | pushStyle (index : UInt32)
  | pushFont (index : UInt32)
  | pushColor (color : Color)
  | pushGlyphShader (index : UInt32)
  | popStyle
  | popFont
  | popColor
  | popGlyphShader
  | changeSourceString (index : UInt32)
  | changeSourceStringBuilder (index : UInt32)
  | hyphen (bounds : Rect)
deriving DecidableEq, Repr

/-- The kind of a command. -/
def Command.kind : Command → Command.Kind
  | .blockInfo _ => .blockInfo
  | .lineInfo _ => .lineInfo
  | .text _ => .text
  | .icon _ => .icon
  | .toggleBold => .toggleBold
  | .toggleItalic => .toggleItalic
  | .pushStyle _ => .pushStyle
  | .pushFont _ => .pushFont
  | .pushColor _ => .pushColor
  | .pushGlyphShader _ => .pushGlyphShader
  | .popStyle => .popStyle
  | .popFont => .popFont
  | .popColor => .popColor
  | .popGlyphShader => .popGlyphShader
  | .changeSourceString _ => .changeSourceString
  | .changeSourceStringBuilder _ => .changeSourceStringBuilder
  | .hyphen _ => .hyphen

end StyledText
