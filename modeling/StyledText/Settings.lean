import StyledText.Number.Shortest

/-!
# Layout settings

What a layout engine is told before it lays out text: how lines are broken and aligned, how far
apart they stand, how large the block may grow, and which parts of the markup are read.  Settings of
a new stream come from a configuration, whose numbers are checked: the line spacing is a positive
number and the greatest width and height, where given, are non-negative ones.
-/

namespace StyledText

open Number

/-- Where lines may be broken. -/
inductive Wrapping where
  /-- Nowhere. -/
  | noWrap
  /-- Between words, and inside a word that is too long. -/
  | wrap
  /-- Between words only. -/
  | wholeWords
deriving DecidableEq, Repr

namespace Wrapping

def all : List Wrapping := [.noWrap, .wrap, .wholeWords]

def name : Wrapping → String
  | .noWrap => "no-wrap"
  | .wrap => "wrap"
  | .wholeWords => "whole-words"

def ofName? (s : String) : Option Wrapping := all.find? fun w => w.name == s

end Wrapping

/-- How lines are placed between the edges. -/
inductive Alignment where
  | left
  | center
  | right
  /-- Stretched to both edges. -/
  | justify
deriving DecidableEq, Repr

namespace Alignment

def all : List Alignment := [.left, .center, .right, .justify]

def name : Alignment → String
  | .left => "left"
  | .center => "center"
  | .right => "right"
  | .justify => "justify"

def ofName? (s : String) : Option Alignment := all.find? fun a => a.name == s

end Alignment

/-- How text is laid out. -/
structure LayoutSettings where
  /-- The greatest width of the block, if it is bounded. -/
  maxWidth : Option Binary32 := none
  /-- The greatest height of the block, if it is bounded. -/
  maxHeight : Option Binary32 := none
  wrapping : Wrapping := .wrap
  alignment : Alignment := .left
  /-- The distance of lines, as a multiple of their height. -/
  lineSpacing : Binary32 := .one
  /-- The width of a tab, in spaces. -/
  tabWidth : UInt32 := 4
  hyphenate : Bool := false
deriving DecidableEq, Repr

instance : Inhabited LayoutSettings := ⟨{}⟩

/-- Which parts of the markup are read. -/
structure ParserOptions where
  markup : Bool := true
  icons : Bool := true
  escapes : Bool := true
deriving DecidableEq, Repr

instance : Inhabited ParserOptions := ⟨{}⟩

/-- What a new stream starts with. -/
structure StreamConfig where
  initialCapacity : Nat := 0
  layout : LayoutSettings := {}
  /-- Which parts of the markup are read. -/
  parser : ParserOptions := {}
deriving DecidableEq, Repr

/-- A number of a configuration that is out of its range. -/
inductive InvalidSetting where
  /-- The line spacing is not a positive number. -/
  | lineSpacing (value : Binary32)
  /-- The greatest width is not a non-negative number. -/
  | maxWidth (value : Binary32)
  /-- The greatest height is not a non-negative number. -/
  | maxHeight (value : Binary32)
deriving DecidableEq, Repr

namespace InvalidSetting

def field : InvalidSetting → String
  | .lineSpacing _ => "layout.line-spacing"
  | .maxWidth _ => "layout.max-width"
  | .maxHeight _ => "layout.max-height"

def reason : InvalidSetting → String
  | .lineSpacing value => value.toText ++ " is not a positive number"
  | .maxWidth value | .maxHeight value => value.toText ++ " is not a non-negative number"

/-- The setting and what is wrong with it. -/
def message (e : InvalidSetting) : String :=
  "invalid value for '" ++ e.field ++ "': " ++ e.reason

end InvalidSetting

/-- Whether a number is finite and more than zero. -/
def isPositive (x : Binary32) : Bool := x.isFinite && Binary32.zero.lt x

/-- Whether a number is finite and not less than zero. -/
def isNonNegative (x : Binary32) : Bool := x.isFinite && Binary32.zero.le x

/-- The first number of the settings that is out of its range: the line spacing, the greatest width,
the greatest height. -/
def LayoutSettings.invalid? (s : LayoutSettings) : Option InvalidSetting :=
  let outside (value : Option Binary32) := value.filter fun x => !isNonNegative x
  if !isPositive s.lineSpacing then some (.lineSpacing s.lineSpacing)
  else
    match outside s.maxWidth, outside s.maxHeight with
    | some x, _ => some (.maxWidth x)
    | none, some x => some (.maxHeight x)
    | none, none => none

end StyledText
