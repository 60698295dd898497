import StyledText.Command.Record

/-!
# Records and commands in both directions

A record is **read back as the command that was written**, whatever bytes follow it, and **only
records are read**: bytes that decode to a command begin with its record, bit for bit.

* `readWords?_wordsBytes_append`, `ofWords?_eq_some_iff` — the two layers of the codec, words and
  payloads, each in both directions.
* `decode_eq_ok_iff` — decoding gives a command exactly on the bytes that its record begins.
* `record_codec_exact` — the codec as a whole, with the length and the tag of a record.
-/

namespace StyledText.Number

/-- Words are read off the bytes that they were written as, and what follows is passed over. -/
theorem readWords?_wordsBytes_append (words : List UInt32) (rest : List UInt8) :
    readWords? words.length (wordsBytes words ++ rest) = some words :=
  readWords?_eq_some_iff.2 ⟨rfl, rest, rfl⟩

end StyledText.Number

namespace StyledText.Command

open Number

/-! ### Payloads -/

/-- A payload that makes up a command is the payload of that command.  The cases are those of the
number of words. -/
theorem words_of_ofWords? {kind : Kind} {payload : List UInt32} {c : Command}
    (h : ofWords? kind payload = some c) : c.kind = kind ∧ c.words = payload := by
  cases kind with
  | toggleBold | toggleItalic | popStyle | popFont | popColor | popGlyphShader =>
    match payload, h with
    | [], h => cases h; exact ⟨rfl, rfl⟩
  | pushStyle | pushFont | pushGlyphShader | changeSourceString | changeSourceStringBuilder =>
    match payload, h with
    | [_], h => cases h; exact ⟨rfl, rfl⟩
  | pushColor =>
    match payload, h with
    | [word], h =>
      cases h
      refine ⟨rfl, ?_⟩
      -- the one payload that is not stored as it is: a color is packed
      show [(Color.ofPacked word).packed] = [word]
      rw [Color.packed_ofPacked]
  | blockInfo | hyphen =>
    match payload, h with
    | [_, _, _, _], h => cases h; exact ⟨rfl, rfl⟩
  | icon =>
    match payload, h with
    | [_, _, _, _, _], h => cases h; exact ⟨rfl, rfl⟩
  | text =>
    match payload, h with
    | [_, _, _, _, _, _], h => cases h; exact ⟨rfl, rfl⟩
  | lineInfo =>
    match payload, h with
    | [_, _, _, _, _, _, _], h => cases h; exact ⟨rfl, rfl⟩

/-- A payload makes up a command exactly when it is the payload of that command. -/
theorem ofWords?_eq_some_iff {kind : Kind} {payload : List UInt32} {c : Command} :
    ofWords? kind payload = some c ↔ c.kind = kind ∧ c.words = payload := by
  constructor
  · exact words_of_ofWords?
  · intro h
    obtain ⟨hkind, hwords⟩ := h
    rw [← hkind, ← hwords, ofWords?_words]

/-- Every payload of the right number of words makes up a command. -/
theorem exists_ofWords? {kind : Kind} {payload : List UInt32}
    (h : payload.length = kind.payloadWords) : ∃ c, ofWords? kind payload = some c := by
  cases kind with
  | toggleBold | toggleItalic | popStyle | popFont | popColor | popGlyphShader =>
    match payload, h with
    | [], _ => exact ⟨_, rfl⟩
  | pushStyle | pushFont | pushColor | pushGlyphShader | changeSourceString
  | changeSourceStringBuilder =>
    match payload, h with
    | [_], _ => exact ⟨_, rfl⟩
  | blockInfo | hyphen =>
    match payload, h with
    | [_, _, _, _], _ => exact ⟨_, rfl⟩
  | icon =>
    match payload, h with
    | [_, _, _, _, _], _ => exact ⟨_, rfl⟩
  | text =>
    match payload, h with
    | [_, _, _, _, _, _], _ => exact ⟨_, rfl⟩
  | lineInfo =>
    match payload, h with
    | [_, _, _, _, _, _, _], _ => exact ⟨_, rfl⟩

/-! ### Records -/

/-- A record is decoded to its command, whatever follows it. -/
theorem decode_toBytes_append (c : Command) (rest : List UInt8) :
    decode (c.toBytes ++ rest) = .ok c := by
  have hread : readWords? c.kind.payloadWords (wordsBytes c.words ++ rest) = some c.words := by
    rw [← length_words c]
    exact readWords?_wordsBytes_append c.words rest
  show decode (c.kind.tag :: (wordsBytes c.words ++ rest)) = .ok c
  simp only [decode, Kind.ofTag?_tag, hread, Option.bind_some, ofWords?_words]

/-- Bytes that decode to a command begin with its record. -/
theorem exists_append_of_decode {bytes : List UInt8} {c : Command} (h : decode bytes = .ok c) :
    ∃ rest, bytes = c.toBytes ++ rest := by
  unfold decode at h
  split at h
  · cases h
  · rename_i tag bytes
    split at h
    · cases h
    · rename_i kind htag
      split at h
      · cases h
      · rename_i c' hread
        cases h
        obtain ⟨payload, hpayload, hwords⟩ := Option.bind_eq_some_iff.1 hread
        obtain ⟨_, rest, hrest⟩ := readWords?_eq_some_iff.1 hpayload
        obtain ⟨hkind, hc⟩ := ofWords?_eq_some_iff.1 hwords
        refine ⟨rest, ?_⟩
        rw [toBytes, hkind, hc, Kind.tag_of_ofTag? htag, List.cons_append, hrest]

/-- A tag and as many bytes behind it as its kind needs begin with the record of a command. -/
theorem exists_decode_of_tag {kind : Kind} {bytes : List UInt8}
    (h : kind.payloadLength ≤ bytes.length) :
    ∃ c : Command, c.kind = kind ∧ decode (kind.tag :: bytes) = .ok c := by
  cases hread : readWords? kind.payloadWords bytes with
  | none =>
    have hshort := readWords?_eq_none_iff.1 hread
    rw [Kind.payloadLength] at h
    omega
  | some payload =>
    obtain ⟨c, hc⟩ := exists_ofWords? (readWords?_eq_some_iff.1 hread).1
    refine ⟨c, (words_of_ofWords? hc).1, ?_⟩
    simp only [decode, Kind.ofTag?_tag, hread, Option.bind_some, hc]

/-- **Decoding gives a command exactly on the bytes that its record begins.** -/
theorem decode_eq_ok_iff {bytes : List UInt8} {c : Command} :
    decode bytes = .ok c ↔ ∃ rest, bytes = c.toBytes ++ rest := by
  constructor
  · exact exists_append_of_decode
  · intro h
    obtain ⟨rest, rfl⟩ := h
    exact decode_toBytes_append c rest

/-- A list begins with a record when its first bytes, as many as the kind tells, are the record. -/
theorem take_recordLength_eq_iff {bytes : List UInt8} {c : Command} :
    bytes.take c.kind.recordLength = c.toBytes ↔ ∃ rest, bytes = c.toBytes ++ rest := by
  constructor
  · intro h
    refine ⟨bytes.drop c.kind.recordLength, ?_⟩
    rw [← h, List.take_append_drop]
  · intro h
    obtain ⟨rest, rfl⟩ := h
    rw [← length_toBytes, List.take_left]

/-- **The codec is exact in both directions.**  A record has the length and the tag of its kind and
is decoded to its command with anything behind it; and of the bytes that decode to a command, the
first ones are its record. -/
theorem record_codec_exact (c : Command) :
    c.toBytes.length = c.kind.recordLength ∧ c.toBytes.head? = some c.kind.tag ∧
      (∀ rest, decode (c.toBytes ++ rest) = .ok c) ∧
      ∀ bytes, decode bytes = .ok c ↔ bytes.take c.kind.recordLength = c.toBytes := by
  refine ⟨length_toBytes c, rfl, decode_toBytes_append c, ?_⟩
  intro bytes
  rw [decode_eq_ok_iff, take_recordLength_eq_iff]

end StyledText.Command
