import StyledText.Text.Offset

/-!
# Segments: texts cut from a buffer

A `TextBuffer` is an immutable text with a number that tells it apart from other buffers, also from
those that hold the same text.  A `Segment` is a piece of a buffer between two byte offsets.  The
piece itself is kept beside its place, and `Segment.cut_eq` says that the two agree, so every
segment has a text and its ends are places of the buffer.

Segments are compared by their text alone: two pieces of different buffers with the same characters
are equal, and `Segment.sharesBuffer` is the only question that looks at the buffer.
-/

namespace StyledText.Text

/-- An immutable text.  The number stands for its identity. -/
structure TextBuffer where
  /-- Tells this buffer apart from others with the same text. -/
  id : Nat
  text : String
deriving DecidableEq, Repr

/-- A piece of a buffer between two byte offsets. -/
structure Segment where
  /-- The buffer that the piece was cut from. -/
  buffer : TextBuffer
  /-- The byte offset of the piece in the buffer. -/
  start : Nat
  text : String
  /-- The piece stands in the buffer at its offset. -/
  cut_eq : cut? start (start + text.utf8ByteSize) buffer.text = some text

namespace Segment

/-- Offsets and lengths of segments stay below this bound, so that each fits 32 bits. -/
def sizeLimit : Nat := UInt32.size

/-- The number of bytes of the piece. -/
def length (s : Segment) : Nat := s.text.utf8ByteSize

/-- The byte offset just past the piece in the buffer. -/
def stop (s : Segment) : Nat := s.start + s.length

/-- Whether the piece has no characters. -/
def isEmpty (s : Segment) : Bool := s.length == 0

def whole (buffer : TextBuffer) : Segment where
  buffer := buffer
  start := 0
  text := buffer.text
  cut_eq := cut?_zero_utf8ByteSize buffer.text

instance : Inhabited Segment := ⟨whole ⟨0, ""⟩⟩

/-- The piece of a buffer between two byte offsets, when both are places of the buffer, in order,
and below the size limit. -/
def ofRange? (buffer : TextBuffer) (start stop : Nat) : Option Segment :=
  match h : cut? start stop buffer.text with
  | none => none
  | some text =>
    if start < sizeLimit ∧ stop - start < sizeLimit then
      some ⟨buffer, start, text, (add_utf8ByteSize_of_cut? h).symm ▸ h⟩
    else none

/-- The piece of a segment between two byte offsets that count from the segment's own start. -/
def slice? (s : Segment) (start stop : Nat) : Option Segment :=
  if stop ≤ s.length ∧ start ≤ stop then ofRange? s.buffer (s.start + start) (s.start + stop)
  else none

/-- Whether two segments are pieces of one buffer. -/
def sharesBuffer (s t : Segment) : Bool := s.buffer.id == t.buffer.id

instance : BEq Segment where
  beq s t := s.text == t.text

instance : Ord Segment where
  compare s t := compare s.text t.text

instance : ToString Segment where
  toString s := s.text

/-! ### What the operations give -/

/-- A range of a buffer is a segment just when it can be cut and stays within the size limit. -/
theorem ofRange?_eq_some_iff {b : TextBuffer} {start stop : Nat} {s : Segment} :
    ofRange? b start stop = some s ↔
      cut? start stop b.text = some s.text ∧ start < sizeLimit ∧ stop - start < sizeLimit ∧
        s.buffer = b ∧ s.start = start := by
  unfold ofRange?
  split
  · rename_i h
    simp [h]
  · rename_i text h
    split
    · rename_i hlim
      simp only [Option.some.injEq, h]
      constructor
      · intro heq
        subst heq
        exact ⟨rfl, hlim.1, hlim.2, rfl, rfl⟩
      · intro hcut
        obtain ⟨rfl, _, _, rfl, rfl⟩ := hcut
        rfl
    · rename_i hlim
      simp only [reduceCtorEq, false_iff]
      intro hcut
      obtain ⟨_, h₁, h₂, _⟩ := hcut
      exact hlim ⟨h₁, h₂⟩

/-- A segment of a range ends where the range ends. -/
theorem stop_of_ofRange? {b : TextBuffer} {start stop : Nat} {s : Segment}
    (h : ofRange? b start stop = some s) : s.stop = stop := by
  obtain ⟨hcut, _, _, _, hstart⟩ := ofRange?_eq_some_iff.1 h
  rw [Segment.stop, length, hstart]
  exact add_utf8ByteSize_of_cut? hcut

end Segment

end StyledText.Text
