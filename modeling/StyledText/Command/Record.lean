import StyledText.Command.Basic
import StyledText.Number.Word
import StyledText.Stream.Error

/-!
# Records

A command is stored as a record: the tag of its kind, and then the words of its payload, the lowest
byte first.  Numbers are stored by their bits and colors packed.  `Command.words` lays out the
payload and `Command.ofWords?` takes it in again; `Command.toBytes` and `Command.decode` do the same
for whole records, and `decode` passes over what follows the record.
-/

namespace StyledText.Command

open Number

/-- The words of a rectangle. -/
def rectWords (r : Rect) : List UInt32 := [r.x.bits, r.y.bits, r.width.bits, r.height.bits]

/-- The payload of a command. -/
def words : Command → List UInt32
  | .blockInfo info => [info.width.bits, info.height.bits, info.lineCount, info.textLength]
  | .lineInfo info =>
    [info.lengthInCommands, info.lineNumber] ++ rectWords info.bounds ++ [info.baseline.bits]
  | .text run => [run.offset, run.length] ++ rectWords run.bounds
  | .icon run => run.icon :: rectWords run.bounds
  | .hyphen bounds => rectWords bounds
  | .pushColor color => [color.packed]
  | .pushStyle index | .pushFont index | .pushGlyphShader index
  | .changeSourceString index | .changeSourceStringBuilder index => [index]
  | .toggleBold | .toggleItalic | .popStyle | .popFont | .popColor | .popGlyphShader => []

/-- The command of a kind with a payload, when the payload has the words that the kind needs. -/
def ofWords? : Kind → List UInt32 → Option Command
  | .blockInfo, [w, h, lines, length] => some (.blockInfo ⟨⟨w⟩, ⟨h⟩, lines, length⟩)
  | .lineInfo, [commands, line, x, y, w, h, baseline] =>
    some (.lineInfo ⟨commands, line, ⟨⟨x⟩, ⟨y⟩, ⟨w⟩, ⟨h⟩⟩, ⟨baseline⟩⟩)
  | .text, [offset, length, x, y, w, h] =>
    some (.text ⟨offset, length, ⟨⟨x⟩, ⟨y⟩, ⟨w⟩, ⟨h⟩⟩⟩)
  | .icon, [index, x, y, w, h] => some (.icon ⟨index, ⟨⟨x⟩, ⟨y⟩, ⟨w⟩, ⟨h⟩⟩⟩)
  | .hyphen, [x, y, w, h] => some (.hyphen ⟨⟨x⟩, ⟨y⟩, ⟨w⟩, ⟨h⟩⟩)
  | .toggleBold, [] => some .toggleBold
  | .toggleItalic, [] => some .toggleItalic
  | .pushStyle, [index] => some (.pushStyle index)
  | .pushFont, [index] => some (.pushFont index)
  | .pushColor, [word] => some (.pushColor (.ofPacked word))
  | .pushGlyphShader, [index] => some (.pushGlyphShader index)
  | .popStyle, [] => some .popStyle
  | .popFont, [] => some .popFont
  | .popColor, [] => some .popColor
  | .popGlyphShader, [] => some .popGlyphShader
  | .changeSourceString, [index] => some (.changeSourceString index)
  | .changeSourceStringBuilder, [index] => some (.changeSourceStringBuilder index)
  | _, _ => none

/-- The record of a command. -/
def toBytes (c : Command) : List UInt8 := c.kind.tag :: wordsBytes c.words

/-- The command whose record begins a list of bytes. -/
def decode : List UInt8 → Except StreamError Command
  | [] => .error .unexpectedEnd
  | tag :: bytes =>
    match Kind.ofTag? tag with
    | none => .error (.invalidCommand tag)
    | some kind =>
      match (readWords? kind.payloadWords bytes).bind (ofWords? kind) with
      | none => .error .unexpectedEnd
      | some c => .ok c

/-! ### Lengths -/

@[simp] theorem length_words (c : Command) : c.words.length = c.kind.payloadWords := by
  cases c <;> rfl

/-- A record is as long as its kind tells. -/
@[simp] theorem length_toBytes (c : Command) : c.toBytes.length = c.kind.recordLength := by
  rw [toBytes, List.length_cons, length_wordsBytes, length_words, Kind.recordLength,
    Kind.payloadLength, Nat.add_comm]

/-! ### Payloads -/

/-- A payload gives back its command. -/
@[simp] theorem ofWords?_words (c : Command) : ofWords? c.kind c.words = some c := by
  cases c with
  | pushColor color =>
    show some (pushColor (.ofPacked color.packed)) = some (pushColor color)
    rw [Color.ofPacked_packed]
  | _ => rfl

end StyledText.Command
