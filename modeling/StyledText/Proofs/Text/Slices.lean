import StyledText.Proofs.Text.Boundary

/-!
# Slices of segments

Whether a segment can be sliced is decided in its buffer: the range is shifted by the place of the
segment, and cut there.  **That is the same as cutting the text of the segment**, however the
segment was had and whatever bytes its characters take, since behind the front of a text a place is
a place of what follows.

A segment can be kept without its text, as an `Extent` of two 32-bit words.  Then its text has to be
cut again each time, and an extent of words alone could lie across a character or past the end.  No
extent that is had from a buffer within the limit does.

* `isValid_add_iff` — places of a piece and of the whole.
* `cut?_add_of_cut?` — a cut of a piece is a cut of the whole.
* `Segment.From`, `Extent.From` — the segments had from a buffer, and the extents.
* `slices_of_buffer` — where segments lie, what their slices are, and that extents are theirs.
-/

namespace StyledText.Text

open String.Pos.Raw (IsValid isValid_append)

/-! ### Cuts of a piece -/

section Cuts

variable {start stop i j : Nat} {s t : String}

/-- A place of a piece is a place of the text that it was cut from, so much further on. -/
theorem isValid_add_iff (h : cut? start stop s = some t) (hi : i ≤ t.utf8ByteSize) :
    IsValid s ⟨start + i⟩ ↔ IsValid t ⟨i⟩ := by
  obtain ⟨front, rest, rfl, rfl, -⟩ := cut?_eq_some_iff_append.1 h
  have hshift : (⟨front.utf8ByteSize + i⟩ : String.Pos.Raw) - front = ⟨i⟩ := by
    apply String.Pos.Raw.ext
    show front.utf8ByteSize + i - front.utf8ByteSize = i
    omega
  rw [String.append_assoc, isValid_append, isValid_append, hshift]
  constructor
  · intro hplace
    rcases hplace with hfront | ⟨-, hpiece | ⟨hend, -⟩⟩
    · -- only the first place of the piece is one of the front
      have hle : front.utf8ByteSize + i ≤ front.utf8ByteSize := hfront.le_utf8ByteSize
      have hzero : i = 0 := by omega
      rw [hzero]
      exact String.Pos.Raw.isValid_zero
    · exact hpiece
    · have hle : t.utf8ByteSize ≤ i := hend
      have hlast : i = t.utf8ByteSize := by omega
      rw [hlast]
      exact String.Pos.Raw.isValid_rawEndPos
  · intro hpiece
    have hle : front.utf8ByteSize ≤ front.utf8ByteSize + i := Nat.le_add_right _ _
    exact .inr ⟨hle, .inl hpiece⟩

/-- **A cut of a piece is a cut of the text that it was cut from**, so much further on. -/
theorem cut?_add_of_cut? (h : cut? start stop s = some t) (hj : j ≤ t.utf8ByteSize) :
    cut? (start + i) (start + j) s = cut? i j t := by
  apply Option.ext
  intro u
  rw [cut?_eq_some_iff_bytes, cut?_eq_some_iff_bytes, isValid_add_iff h hj]
  have hsize := add_utf8ByteSize_of_cut? h
  have hbytes : t.toByteArray.extract i j = s.toByteArray.extract (start + i) (start + j) := by
    obtain ⟨-, -, -, ht⟩ := cut?_eq_some_iff_bytes.1 h
    rw [ht, ByteArray.extract_extract, Nat.min_eq_left (by omega)]
  rw [hbytes, Nat.add_le_add_iff_left]
  constructor
  · intro hcut
    obtain ⟨hle, hi, hj', hu⟩ := hcut
    exact ⟨hle, (isValid_add_iff h (Nat.le_trans hle hj)).1 hi, hj', hu⟩
  · intro hcut
    obtain ⟨hle, hi, hj', hu⟩ := hcut
    exact ⟨hle, (isValid_add_iff h (Nat.le_trans hle hj)).2 hi, hj', hu⟩

end Cuts

/-! ### Extents -/

/-- A segment without its text: a buffer and two words. -/
structure Extent where
  buffer : TextBuffer
  start : UInt32
  length : UInt32

namespace Extent

/-- The text of an extent, if it has one. -/
def text? (e : Extent) : Option String :=
  cut? e.start.toNat (e.start.toNat + e.length.toNat) e.buffer.text

def whole (buffer : TextBuffer) : Extent := ⟨buffer, 0, .ofNat buffer.text.utf8ByteSize⟩

def ofRange? (buffer : TextBuffer) (start stop : Nat) : Option Extent :=
  if (cut? start stop buffer.text).isSome ∧ start < UInt32.size ∧ stop - start < UInt32.size then
    some ⟨buffer, .ofNat start, .ofNat (stop - start)⟩
  else none

def slice? (e : Extent) (start stop : Nat) : Option Extent :=
  if stop ≤ e.length.toNat ∧ start ≤ stop then
    ofRange? e.buffer (e.start.toNat + start) (e.start.toNat + stop)
  else none

/-- The extents that are had from a buffer, as segments are. -/
inductive From (buffer : TextBuffer) : Extent → Prop
  | whole : From buffer (whole buffer)
  | range {start stop : Nat} {e : Extent} (h : ofRange? buffer start stop = some e) : From buffer e
  | slice {e e' : Extent} {start stop : Nat} (he : From buffer e)
      (h : e.slice? start stop = some e') : From buffer e'

end Extent

namespace Segment

/-- The place of a segment in words. -/
def extent (s : Segment) : Extent := ⟨s.buffer, .ofNat s.start, .ofNat s.length⟩

/-- The extents of a buffer are those of its segments. -/
theorem map_extent_ofRange? (buffer : TextBuffer) (start stop : Nat) :
    (ofRange? buffer start stop).map extent = Extent.ofRange? buffer start stop := by
  cases hsegment : ofRange? buffer start stop with
  | some s =>
    obtain ⟨hcut, hstart, hlength, rfl, rfl⟩ := ofRange?_eq_some_iff.1 hsegment
    have hstop := add_utf8ByteSize_of_cut? hcut
    have hsize : stop - s.start = s.length := by
      show stop - s.start = s.text.utf8ByteSize
      omega
    rw [Extent.ofRange?, if_pos ⟨by rw [hcut]; rfl, hstart, hlength⟩, hsize]
    rfl
  | none =>
    -- an extent would be that of a segment
    rw [Extent.ofRange?, if_neg]
    · rfl
    · intro hextent
      obtain ⟨hcut, hstart, hlength⟩ := hextent
      obtain ⟨text, htext⟩ := Option.isSome_iff_exists.1 hcut
      have hsize := add_utf8ByteSize_of_cut? htext
      let s : Segment := ⟨buffer, start, text, by rw [hsize, htext]⟩
      have hsome : ofRange? buffer start stop = some s :=
        ofRange?_eq_some_iff.2 ⟨htext, hstart, hlength, rfl, rfl⟩
      rw [hsome] at hsegment
      cases hsegment

/-! ### Segments had from a buffer -/

/-- The segments that are had from a buffer: all of it, its ranges, and slices of such, to any
depth. -/
inductive From (buffer : TextBuffer) : Segment → Prop
  | whole : From buffer (whole buffer)
  | range {start stop : Nat} {s : Segment} (h : ofRange? buffer start stop = some s) : From buffer s
  | slice {s t : Segment} {start stop : Nat} (hs : From buffer s)
      (h : s.slice? start stop = some t) : From buffer t

/-- Where a segment lies: between two places of its buffer in order, with the bytes between them for
a text. -/
structure LiesIn (buffer : TextBuffer) (s : Segment) : Prop where
  buffer_eq : s.buffer = buffer
  start_le_stop : s.start ≤ s.stop
  stop_le_size : s.stop ≤ buffer.text.utf8ByteSize
  isValid_start : IsValid buffer.text ⟨s.start⟩
  isValid_stop : IsValid buffer.text ⟨s.stop⟩
  bytes_eq : s.text.toByteArray = buffer.text.toByteArray.extract s.start s.stop

/-- A segment is sliced like its text. -/
structure SlicesLikeText (s : Segment) : Prop where
  /-- There is a slice between any two places of the text in order, and no other. -/
  exists_slice?_iff (i j : Nat) : (∃ t, s.slice? i j = some t) ↔
    i ≤ j ∧ j ≤ s.length ∧ IsValid s.text ⟨i⟩ ∧ IsValid s.text ⟨j⟩
  /-- A slice has the bytes between the places for a text, and lies in the same buffer, so much
  further on. -/
  of_slice? {i j : Nat} {t : Segment} (h : s.slice? i j = some t) :
    t.text.toByteArray = s.text.toByteArray.extract i j ∧ t.start = s.start + i ∧
      t.stop = s.start + j ∧ t.buffer = s.buffer
  /-- A slice of a slice is a slice. -/
  slice?_slice? {i j k l : Nat} {t u : Segment} (h : s.slice? i j = some t)
    (h' : t.slice? k l = some u) : s.slice? (i + k) (i + l) = some u

/-- A segment is kept in words without loss: its text is cut again, and its slices are those of its
extent. -/
structure KeptInWords (s : Segment) : Prop where
  text?_eq : s.extent.text? = some s.text
  slice?_eq (i j : Nat) : s.extent.slice? i j = (s.slice? i j).map extent

variable {buffer : TextBuffer} {s t : Segment} {i j : Nat}

theorem buffer_of_slice? (h : s.slice? i j = some t) : t.buffer = s.buffer := by
  rw [slice?] at h
  split at h
  · exact (ofRange?_eq_some_iff.1 h).2.2.2.1
  · cases h

theorem From.buffer_eq (hs : From buffer s) : s.buffer = buffer := by
  induction hs with
  | whole => rfl
  | range h => exact (ofRange?_eq_some_iff.1 h).2.2.2.1
  | slice _ h ih => rw [buffer_of_slice? h, ih]

/-- A segment stops within its buffer. -/
theorem stop_le_size (s : Segment) : s.stop ≤ s.buffer.text.utf8ByteSize := stop_le_of_cut? s.cut_eq

/-- In a buffer within the limit, a slice is what is cut from the text of the segment, so much
further on. -/
theorem slice?_eq_some_iff (hsize : s.buffer.text.utf8ByteSize < sizeLimit) :
    s.slice? i j = some t ↔
      cut? i j s.text = some t.text ∧ t.start = s.start + i ∧ t.buffer = s.buffer := by
  have hlast : s.start + s.length ≤ s.buffer.text.utf8ByteSize := s.stop_le_size
  rw [slice?]
  constructor
  · intro h
    split at h
    · rename_i hrange
      obtain ⟨hcut, -, -, hbuffer, hstart⟩ := ofRange?_eq_some_iff.1 h
      rw [cut?_add_of_cut? s.cut_eq hrange.1] at hcut
      exact ⟨hcut, hstart, hbuffer⟩
    · cases h
  · intro h
    obtain ⟨hcut, hstart, hbuffer⟩ := h
    have hstop : j ≤ s.length := stop_le_of_cut? hcut
    have hij := add_utf8ByteSize_of_cut? hcut
    rw [if_pos ⟨hstop, by omega⟩, ofRange?_eq_some_iff, cut?_add_of_cut? s.cut_eq hstop]
    exact ⟨hcut, by omega, by omega, hbuffer, hstart⟩

theorem From.liesIn (hs : From buffer s) : s.LiesIn buffer := by
  obtain ⟨hle, hstart, hstop, hbytes⟩ := cut?_eq_some_iff_bytes.1 s.cut_eq
  have hlast := s.stop_le_size
  rw [hs.buffer_eq] at hstart hstop hbytes hlast
  exact ⟨hs.buffer_eq, hle, hlast, hstart, hstop, hbytes⟩

theorem slicesLikeText (hsize : s.buffer.text.utf8ByteSize < sizeLimit) : s.SlicesLikeText where
  exists_slice?_iff i j := by
    constructor
    · intro hslice
      obtain ⟨t, ht⟩ := hslice
      have hcut := ((slice?_eq_some_iff hsize).1 ht).1
      obtain ⟨hle, hi, hj⟩ := exists_cut?_iff.1 ⟨t.text, hcut⟩
      exact ⟨hle, stop_le_of_cut? hcut, hi, hj⟩
    · intro hplaces
      obtain ⟨hle, hlast, hi, hj⟩ := hplaces
      obtain ⟨text, htext⟩ := exists_cut?_iff.2 ⟨hle, hi, hj⟩
      -- the segment that is cut there
      have hij := add_utf8ByteSize_of_cut? htext
      have hcut : cut? (s.start + i) (s.start + i + text.utf8ByteSize) s.buffer.text =
          some text := by
        rw [Nat.add_assoc, hij, cut?_add_of_cut? s.cut_eq hlast, htext]
      exact ⟨⟨s.buffer, s.start + i, text, hcut⟩, (slice?_eq_some_iff hsize).2 ⟨htext, rfl, rfl⟩⟩
  of_slice? {i j t} h := by
    obtain ⟨hcut, hstart, hbuffer⟩ := (slice?_eq_some_iff hsize).1 h
    have hij := add_utf8ByteSize_of_cut? hcut
    obtain ⟨-, -, -, hbytes⟩ := cut?_eq_some_iff_bytes.1 hcut
    refine ⟨hbytes, hstart, ?_, hbuffer⟩
    show t.start + t.text.utf8ByteSize = s.start + j
    omega
  slice?_slice? {i j k l t u} h h' := by
    obtain ⟨hcut, hstart, hbuffer⟩ := (slice?_eq_some_iff hsize).1 h
    obtain ⟨hcut', hstart', hbuffer'⟩ := (slice?_eq_some_iff (hbuffer ▸ hsize)).1 h'
    refine (slice?_eq_some_iff hsize).2 ⟨?_, ?_, hbuffer'.trans hbuffer⟩
    · rw [cut?_add_of_cut? hcut (stop_le_of_cut? hcut'), hcut']
    · omega

theorem keptInWords (hsize : s.buffer.text.utf8ByteSize < sizeLimit) : s.KeptInWords := by
  have hlast : s.start + s.length ≤ s.buffer.text.utf8ByteSize := s.stop_le_size
  have hstart : s.extent.start.toNat = s.start :=
    UInt32.toNat_ofNat_of_lt' (Nat.lt_of_le_of_lt (by omega) hsize)
  have hlength : s.extent.length.toNat = s.length :=
    UInt32.toNat_ofNat_of_lt' (Nat.lt_of_le_of_lt (by omega) hsize)
  constructor
  · rw [Extent.text?, hstart, hlength]
    exact s.cut_eq
  · intro i j
    rw [Extent.slice?, hstart, hlength, slice?]
    split
    · exact (map_extent_ofRange? _ _ _).symm
    · rfl

end Segment

variable {buffer : TextBuffer}

/-- The extents had from a buffer within the limit are those of segments had from it. -/
theorem Extent.From.exists_segment (hsize : buffer.text.utf8ByteSize < Segment.sizeLimit)
    {e : Extent} (he : e.From buffer) : ∃ s : Segment, s.From buffer ∧ s.extent = e := by
  induction he with
  | whole => exact ⟨_, .whole, rfl⟩
  | range h =>
    rw [← Segment.map_extent_ofRange?] at h
    obtain ⟨s, hs, hextent⟩ := Option.map_eq_some_iff.1 h
    exact ⟨s, .range hs, hextent⟩
  | slice _ h ih =>
    obtain ⟨s, hs, rfl⟩ := ih
    rw [(Segment.keptInWords (hs.buffer_eq ▸ hsize)).slice?_eq] at h
    obtain ⟨t, ht, hextent⟩ := Option.map_eq_some_iff.1 h
    exact ⟨t, .slice hs ht, hextent⟩

/-- **Segments are sliced like their texts.**  Of a buffer within the limit take all, or a range, or
slices of what was taken before.  The segment lies between two places of the buffer.  It has a slice
exactly between two places of its own text, and that is the text between them; a slice of a slice is
a slice of the segment, so much further on.  Taken in words instead, each extent is that of such a
segment, and so has its text and its slices. -/
theorem slices_of_buffer (hsize : buffer.text.utf8ByteSize < Segment.sizeLimit) :
    (∀ s : Segment, s.From buffer → s.LiesIn buffer ∧ s.SlicesLikeText) ∧
      ∀ e : Extent, e.From buffer →
        ∃ s : Segment, s.From buffer ∧ s.extent = e ∧ s.KeptInWords := by
  constructor
  · intro s hs
    exact ⟨hs.liesIn, Segment.slicesLikeText (hs.buffer_eq ▸ hsize)⟩
  · intro e he
    obtain ⟨s, hs, hextent⟩ := he.exists_segment hsize
    exact ⟨s, hs, hextent, Segment.keptInWords (hs.buffer_eq ▸ hsize)⟩

/-- Two bytes in the middle of a slice are one character: it can be sliced around them and not
between them. -/
theorem slices_of_buffer_accented :
    let buffer : TextBuffer := ⟨0, "naïve"⟩
    let whole : Segment := .whole buffer
    buffer.text.utf8ByteSize < Segment.sizeLimit ∧ whole.From buffer ∧
      ∃ s, whole.slice? 1 6 = some s ∧ s.text = "aïve" ∧ (¬∃ t, s.slice? 1 2 = some t) ∧
        ∃ t, s.slice? 1 3 = some t ∧ t.text = "ï" ∧ t.start = 2 ∧ t.stop = 4 ∧
          whole.slice? 2 4 = some t := by
  intro buffer whole
  have hsize : buffer.text.utf8ByteSize < Segment.sizeLimit := by decide +kernel
  have hs : (whole.slice? 1 6).map Segment.text = some "aïve" := by decide +kernel
  have ht : ((whole.slice? 1 6).bind fun s => s.slice? 1 3).map Segment.text = some "ï" := by
    decide +kernel
  obtain ⟨s, hs, htext⟩ := Option.map_eq_some_iff.1 hs
  rw [hs] at ht
  obtain ⟨t, ht, htext'⟩ := Option.map_eq_some_iff.1 ht
  obtain ⟨-, hwhole⟩ := (slices_of_buffer hsize).1 whole .whole
  obtain ⟨-, hslices⟩ := (slices_of_buffer hsize).1 s (.slice .whole hs)
  have hnone : ¬∃ t, s.slice? 1 2 = some t := by
    rw [hslices.exists_slice?_iff, Segment.length, htext]
    decide +kernel
  have hboth : whole.slice? 2 4 = some t := hwhole.slice?_slice? hs ht
  obtain ⟨-, hstart, hstop, -⟩ := hwhole.of_slice? hboth
  exact ⟨hsize, .whole, s, hs, htext, hnone, t, ht, htext', hstart, hstop, hboth⟩

end StyledText.Text
