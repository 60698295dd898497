/-!
# Kinds of command

Every command is of one of seventeen kinds.  A kind fixes the tag byte that its records begin with
and the number of 32-bit words that follow the tag.
-/

namespace StyledText.Command

/-- What a command does. -/
inductive Kind where
  | blockInfo
  | lineInfo
  | text
  | icon
  | toggleBold
  | toggleItalic
  | pushStyle
  | pushFont
  | pushColor
  | pushGlyphShader
  | popStyle
  | popFont
  | popColor
  | popGlyphShader
  | changeSourceString
  | changeSourceStringBuilder
  | hyphen
deriving DecidableEq, Repr

namespace Kind

def all : List Kind :=
  [.blockInfo, .lineInfo, .text, .icon, .toggleBold, .toggleItalic, .pushStyle, .pushFont,
    .pushColor, .pushGlyphShader, .popStyle, .popFont, .popColor, .popGlyphShader,
    .changeSourceString, .changeSourceStringBuilder, .hyphen]

def name : Kind → String
  | .blockInfo => "BlockInfo"
  | .lineInfo => "LineInfo"
  | .text => "Text"
  | .icon => "Icon"
  | .toggleBold => "ToggleBold"
  | .toggleItalic => "ToggleItalic"
  | .pushStyle => "PushStyle"
  | .pushFont => "PushFont"
  | .pushColor => "PushColor"
  | .pushGlyphShader => "PushGlyphShader"
  | .popStyle => "PopStyle"
  | .popFont => "PopFont"
  | .popColor => "PopColor"
  | .popGlyphShader => "PopGlyphShader"
  | .changeSourceString => "ChangeSourceString"
  | .changeSourceStringBuilder => "ChangeSourceStringBuilder"
  | .hyphen => "Hyphen"

def ofName? (s : String) : Option Kind := all.find? fun kind => kind.name == s

/-- The byte that begins a record of the kind. -/
def tag : Kind → UInt8
  | .blockInfo => 0x01
  | .lineInfo => 0x02
  | .text => 0x03
  | .icon => 0x04
  | .toggleBold => 0x05
  | .toggleItalic => 0x06
  | .pushStyle => 0x10
  | .pushFont => 0x11
  | .pushColor => 0x12
  | .pushGlyphShader => 0x13
  | .popStyle => 0x18
  | .popFont => 0x19
  | .popColor => 0x1A
  | .popGlyphShader => 0x1B
  | .changeSourceString => 0x20
  | .changeSourceStringBuilder => 0x21
  | .hyphen => 0x30

/-- The kind whose records begin with a byte. -/
def ofTag? (tag : UInt8) : Option Kind := all.find? fun kind => kind.tag == tag

/-- The number of words behind the tag. -/
def payloadWords : Kind → Nat
  | .blockInfo => 4
  | .lineInfo => 7
  | .text => 6
  | .icon => 5
  | .hyphen => 4
  | .pushStyle | .pushFont | .pushColor | .pushGlyphShader
  | .changeSourceString | .changeSourceStringBuilder => 1
  | .toggleBold | .toggleItalic | .popStyle | .popFont | .popColor | .popGlyphShader => 0

/-- The number of bytes behind the tag. -/
def payloadLength (kind : Kind) : Nat := 4 * kind.payloadWords

/-- The number of bytes of a record. -/
def recordLength (kind : Kind) : Nat := 1 + kind.payloadLength

/-! ### Tags -/

/-- Each kind has a tag of its own. -/
theorem tag_injective {k l : Kind} (h : k.tag = l.tag) : k = l := by
  revert h
  cases k <;> cases l <;> decide

/-- A kind is found by its tag. -/
@[simp] theorem ofTag?_tag (kind : Kind) : ofTag? kind.tag = some kind := by
  cases kind <;> rfl

/-- A byte is the tag of the kind that it finds. -/
theorem tag_of_ofTag? {tag : UInt8} {kind : Kind} (h : ofTag? tag = some kind) :
    kind.tag = tag := by
  have := List.find?_some h
  simpa using this

theorem recordLength_pos (kind : Kind) : 0 < kind.recordLength := by
  unfold recordLength
  omega

end Kind

end StyledText.Command
