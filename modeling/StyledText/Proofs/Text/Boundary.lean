import StyledText.Text.Segment

/-!
# Cuts at the boundaries of characters

`Text.cut?` cuts a text character by character.  What it cuts is described here by the bytes of the
text alone: an offset is a place of the text when the bytes before it are whole characters, which is
`String.Pos.Raw.IsValid`.

* `cut?_eq_some_iff_append` — a cut splits the text in three.
* `cut?_eq_some_iff_bytes` — it succeeds between places only, and gives **the bytes between them**.
* `exists_cut?_iff` — it succeeds between any two places in order.
* `Segment.exists_ofRange?` — what can be cut from a buffer within the limit is a segment of it.
-/

namespace StyledText.Text

open String.Pos.Raw (IsValid isValid_iff_exists_append)

variable {start stop : Nat} {s t : String}

/-- A cut succeeds just when the text is a front, the cut and a rest. -/
theorem cut?_eq_some_iff_append :
    cut? start stop s = some t ↔ ∃ front rest : String, s = front ++ t ++ rest ∧
      front.utf8ByteSize = start ∧ (front ++ t).utf8ByteSize = stop := by
  rw [cut?_eq_some_iff]
  constructor
  · intro hcut
    obtain ⟨hsize, front, rest, hwidth, hs⟩ := hcut
    have hfront : (String.ofList front).utf8ByteSize = start := by
      rw [utf8ByteSize_ofList, hwidth]
    refine ⟨String.ofList front, String.ofList rest, ?_, hfront, ?_⟩
    · rw [← String.toList_inj, ← hs]
      simp only [String.toList_append, String.toList_ofList, List.append_assoc]
    · rw [String.utf8ByteSize_append, hfront, hsize]
  · intro happend
    obtain ⟨front, rest, rfl, hstart, hstop⟩ := happend
    rw [String.utf8ByteSize_append, hstart] at hstop
    refine ⟨hstop, front.toList, rest.toList, ?_, ?_⟩
    · rw [← utf8ByteSize_eq_width, hstart]
    · simp only [String.toList_append, List.append_assoc]

/-- What can be cut from a text can be cut from it when more is written behind. -/
theorem cut?_append (h : cut? start stop s = some t) (more : String) :
    cut? start stop (s ++ more) = some t := by
  obtain ⟨front, rest, rfl, hstart, hstop⟩ := cut?_eq_some_iff_append.1 h
  exact cut?_eq_some_iff_append.2 ⟨front, rest ++ more, String.append_assoc, hstart, hstop⟩

/-- A cut stops within the text. -/
theorem stop_le_of_cut? (h : cut? start stop s = some t) : stop ≤ s.utf8ByteSize := by
  obtain ⟨front, rest, rfl, -, rfl⟩ := cut?_eq_some_iff_append.1 h
  have hsize : (front ++ t ++ rest).utf8ByteSize = (front ++ t).utf8ByteSize + rest.utf8ByteSize :=
    String.utf8ByteSize_append
  omega

/-- A cut is the bytes between two places of the text. -/
theorem cut?_eq_some_iff_bytes :
    cut? start stop s = some t ↔ start ≤ stop ∧ IsValid s ⟨start⟩ ∧ IsValid s ⟨stop⟩ ∧
      t.toByteArray = s.toByteArray.extract start stop := by
  rw [cut?_eq_some_iff_append]
  constructor
  · intro happend
    obtain ⟨front, rest, rfl, rfl, rfl⟩ := happend
    have hstart : IsValid (front ++ t ++ rest) ⟨front.utf8ByteSize⟩ :=
      isValid_iff_exists_append.2 ⟨front, t ++ rest, String.append_assoc, rfl⟩
    have hstop : IsValid (front ++ t ++ rest) ⟨(front ++ t).utf8ByteSize⟩ :=
      isValid_iff_exists_append.2 ⟨front ++ t, rest, rfl, rfl⟩
    refine ⟨?_, hstart, hstop, ?_⟩
    · rw [String.utf8ByteSize_append]
      exact Nat.le_add_right _ _
    · have hbytes : (front ++ t ++ rest).toByteArray.extract
          (front.toByteArray.size + 0) (front.toByteArray.size + t.toByteArray.size) =
          t.toByteArray := by
        rw [String.append_assoc, String.toByteArray_append, ByteArray.extract_append_size_add,
          String.toByteArray_append, ByteArray.extract_append_eq_left rfl]
      rw [String.utf8ByteSize_append]
      exact hbytes.symm
  · intro hbytes
    obtain ⟨hle, hstart, hstop, ht⟩ := hbytes
    obtain ⟨front, back, hfront, hfrontSize⟩ := isValid_iff_exists_append.1 hstart
    obtain ⟨upTo, rest, hupTo, hupToSize⟩ := isValid_iff_exists_append.1 hstop
    have hstart : start = front.toByteArray.size := congrArg String.Pos.Raw.byteIdx hfrontSize
    have hstop : stop = upTo.toByteArray.size := congrArg String.Pos.Raw.byteIdx hupToSize
    have hjoin : upTo = front ++ t := by
      rw [← String.toByteArray_inj, String.toByteArray_append, ht]
      calc upTo.toByteArray
          _ = s.toByteArray.extract 0 stop := by
            rw [hupTo, String.toByteArray_append, ByteArray.extract_append_eq_left hstop]
          _ = s.toByteArray.extract 0 start ++ s.toByteArray.extract start stop :=
            ByteArray.extract_eq_extract_append_extract start (Nat.zero_le start) hle
          _ = front.toByteArray ++ s.toByteArray.extract start stop := by
            rw [hfront, String.toByteArray_append, ByteArray.extract_append_eq_left hstart]
    exact ⟨front, rest, by rw [hupTo, hjoin], hstart.symm, by rw [← hjoin, hstop]; rfl⟩

/-- Between two places in order there is always a text to cut. -/
theorem exists_cut?_iff :
    (∃ t, cut? start stop s = some t) ↔ start ≤ stop ∧ IsValid s ⟨start⟩ ∧ IsValid s ⟨stop⟩ := by
  constructor
  · intro hcut
    obtain ⟨t, ht⟩ := hcut
    obtain ⟨hle, hstart, hstop, _⟩ := cut?_eq_some_iff_bytes.1 ht
    exact ⟨hle, hstart, hstop⟩
  · intro hplaces
    obtain ⟨hle, hstart, hstop⟩ := hplaces
    have hbytes := String.toByteArray_extract (s := s) (b := ⟨_, hstart⟩) (e := ⟨_, hstop⟩)
    exact ⟨_, cut?_eq_some_iff_bytes.2 ⟨hle, hstart, hstop, hbytes⟩⟩

/-- What can be cut from a buffer within the limit is a segment of it. -/
theorem Segment.exists_ofRange? {buffer : TextBuffer} (h : cut? start stop buffer.text = some t)
    (hsize : buffer.text.utf8ByteSize < sizeLimit) :
    ∃ segment, ofRange? buffer start stop = some segment ∧ segment.text = t := by
  have hstop := stop_le_of_cut? h
  have hlength := add_utf8ByteSize_of_cut? h
  have hcut : cut? start (start + t.utf8ByteSize) buffer.text = some t := by rw [hlength, h]
  exact ⟨⟨buffer, start, t, hcut⟩, ofRange?_eq_some_iff.2 ⟨h, by omega, by omega, rfl, rfl⟩, rfl⟩

end StyledText.Text
