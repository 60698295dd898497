import StyledText.Proofs.RecordBuffer.Layout

/-!
# The grammar of records

Which bytes begin with a record can be told from the first of them and from their number: **a tag,
and at least as many bytes as records of its kind have**.  Decoding refuses everything else, and by
its fault one knows what is missing.

The number of bytes is looked up by the kind.  How many bytes the fields of a command take is another
matter: a `FieldReader` takes them one by one, and each of them could meet the end.  They never do.

* `FieldReader.reads_command`, `exists_run_command` — the fields of a command are read off its
  payload, and take all of it.
* `decodeByFields_eq` — decoding with a test of the length first and the fields then.
* `exists_decode_iff`, `decode_eq_invalidCommand_iff`, `decode_eq_unexpectedEnd_iff` — what decoding
  answers.
* `decode_take`, `encodeAll_injective` — so no record begins another, and **records in a row can be
  told apart in one way only**.
* `decode_grammar` — all of this.
-/

namespace StyledText.Command

open Number

/-! ### Reading field by field -/

/-- Reads off the front of the bytes that are left. -/
abbrev FieldReader := StateT (List UInt8) (Except StreamError)

namespace FieldReader

def word : FieldReader UInt32 := fun bytes =>
  match bytes with
  | b₀ :: b₁ :: b₂ :: b₃ :: rest => .ok (wordOfBytes b₀ b₁ b₂ b₃, rest)
  | _ => .error .unexpectedEnd

def number : FieldReader Binary32 := return ⟨← word⟩

def rect : FieldReader Rect := return ⟨← number, ← number, ← number, ← number⟩

/-- The fields of a command of a kind, in the order in which they are stored. -/
def command : Kind → FieldReader Command
  | .blockInfo => return .blockInfo ⟨← number, ← number, ← word, ← word⟩
  | .lineInfo => return .lineInfo ⟨← word, ← word, ← rect, ← number⟩
  | .text => return .text ⟨← word, ← word, ← rect⟩
  | .icon => return .icon ⟨← word, ← rect⟩
  | .toggleBold => return .toggleBold
  | .toggleItalic => return .toggleItalic
  | .pushStyle => return .pushStyle (← word)
  | .pushFont => return .pushFont (← word)
  | .pushColor => return .pushColor (.ofPacked (← word))
  | .pushGlyphShader => return .pushGlyphShader (← word)
  | .popStyle => return .popStyle
  | .popFont => return .popFont
  | .popColor => return .popColor
  | .popGlyphShader => return .popGlyphShader
  | .changeSourceString => return .changeSourceString (← word)
  | .changeSourceStringBuilder => return .changeSourceStringBuilder (← word)
  | .hyphen => return .hyphen (← rect)

/-- The reader takes some bytes off the front, whatever follows them, and makes a value of them. -/
def Reads {β : Type} (r : FieldReader β) (front : List UInt8) (value : β) : Prop :=
  ∀ rest, r.run (front ++ rest) = .ok (value, rest)

section

variable {β γ : Type} {r : FieldReader β} {next : β → FieldReader γ} {front back : List UInt8}
  {value : β} {last : γ}

theorem Reads.pure (value : β) : Reads (Pure.pure value) [] value := fun _ => rfl

/-- What is read by one reader after another is read one part after the other. -/
theorem Reads.bind (h : r.Reads front value) (hnext : (next value).Reads back last) :
    (r >>= next).Reads (front ++ back) last := by
  intro rest
  rw [StateT.run_bind, List.append_assoc, h (back ++ rest)]
  exact hnext rest

end

theorem reads_word (w : UInt32) : word.Reads (wordBytes w) w := fun rest =>
  congrArg (fun w => Except.ok (w, rest)) (wordOfBytes_wordBytes w)

theorem reads_number (x : Binary32) : number.Reads (wordBytes x.bits) x :=
  (reads_word x.bits).bind (.pure x)

theorem reads_rect (r : Rect) : rect.Reads (wordsBytes (rectWords r)) r :=
  (reads_number r.x).bind <| (reads_number r.y).bind <| (reads_number r.width).bind <|
    (reads_number r.height).bind (.pure r)

/-- **The fields of a command are read off its payload, and take all of it.** -/
theorem reads_command (c : Command) : (command c.kind).Reads (wordsBytes c.words) c := by
  cases c with
  | blockInfo info =>
    exact (reads_number info.width).bind <| (reads_number info.height).bind <|
      (reads_word info.lineCount).bind <| (reads_word info.textLength).bind (.pure _)
  | lineInfo info =>
    exact (reads_word info.lengthInCommands).bind <| (reads_word info.lineNumber).bind <|
      (reads_rect info.bounds).bind <| (reads_number info.baseline).bind (.pure _)
  | text run =>
    exact (reads_word run.offset).bind <| (reads_word run.length).bind <|
      (reads_rect run.bounds).bind (.pure _)
  | icon run => exact (reads_word run.icon).bind <| (reads_rect run.bounds).bind (.pure _)
  | hyphen bounds => exact (reads_rect bounds).bind (.pure _)
  | pushColor color =>
    have hread : (command .pushColor).Reads (wordsBytes [color.packed])
        (pushColor (.ofPacked color.packed)) := (reads_word color.packed).bind (.pure _)
    rw [Color.ofPacked_packed] at hread
    exact hread
  | pushStyle index | pushFont index | pushGlyphShader index | changeSourceString index
  | changeSourceStringBuilder index => exact (reads_word index).bind (.pure _)
  | toggleBold | toggleItalic | popStyle | popFont | popColor | popGlyphShader => exact .pure _

end FieldReader

/-! ### Decoding field by field -/

/-- The command whose record begins a list of bytes: the tag tells how many bytes the payload takes,
and the fields are read off these. -/
def decodeByFields : List UInt8 → Except StreamError Command
  | [] => .error .unexpectedEnd
  | tag :: bytes =>
    match Kind.ofTag? tag with
    | none => .error (.invalidCommand tag)
    | some kind =>
      if bytes.length < kind.payloadLength then .error .unexpectedEnd
      else ((FieldReader.command kind).run (bytes.take kind.payloadLength)).map Prod.fst

variable {bytes : List UInt8} {kind : Kind} {tag : UInt8}

/-- Bytes as many as the payloads of a kind have are the payload of a command of that kind. -/
theorem exists_eq_wordsBytes (h : bytes.length = kind.payloadLength) :
    ∃ c : Command, c.kind = kind ∧ bytes = wordsBytes c.words := by
  obtain ⟨c, hkind, hdecode⟩ := exists_decode_of_tag (Nat.le_of_eq h.symm)
  obtain ⟨rest, hrest⟩ := decode_eq_ok_iff.1 hdecode
  have htail : bytes = wordsBytes c.words ++ rest := (List.cons.inj hrest).2
  have hlength : (wordsBytes c.words).length = bytes.length := by
    rw [length_wordsBytes, length_words, hkind, h, Kind.payloadLength]
  have hnil : rest = [] := by
    apply List.eq_nil_of_length_eq_zero
    have hsum := congrArg List.length htail
    rw [List.length_append] at hsum
    omega
  rw [hnil, List.append_nil] at htail
  exact ⟨c, hkind, htail⟩

/-- **The fields never run out of payload**, and leave nothing of it. -/
theorem exists_run_command (h : bytes.length = kind.payloadLength) :
    ∃ c, (FieldReader.command kind).run bytes = .ok (c, []) := by
  obtain ⟨c, rfl, rfl⟩ := exists_eq_wordsBytes h
  have hread := FieldReader.reads_command c []
  rw [List.append_nil] at hread
  exact ⟨c, hread⟩

/-- A tag with fewer bytes behind it than its kind needs is refused. -/
theorem decode_of_short (h : bytes.length < kind.payloadLength) :
    decode (kind.tag :: bytes) = .error .unexpectedEnd := by
  have hread : readWords? kind.payloadWords bytes = none := readWords?_eq_none_iff.2 h
  simp only [decode, Kind.ofTag?_tag, hread, Option.bind_none]

/-- Testing the length by the table and then reading the fields comes to the same as reading as many
words as there are. -/
theorem decodeByFields_eq (bytes : List UInt8) : decodeByFields bytes = decode bytes := by
  cases bytes with
  | nil => rfl
  | cons tag bytes =>
    rw [decodeByFields]
    cases htag : Kind.ofTag? tag with
    | none => simp only [decode, htag]
    | some kind =>
      obtain rfl := Kind.tag_of_ofTag? htag
      by_cases hshort : bytes.length < kind.payloadLength
      · simp only [if_pos hshort, decode_of_short hshort]
      · have htake : (bytes.take kind.payloadLength).length = kind.payloadLength :=
          List.length_take_of_le (Nat.le_of_not_lt hshort)
        obtain ⟨c, rfl, hpayload⟩ := exists_eq_wordsBytes htake
        have hread := FieldReader.reads_command c []
        rw [List.append_nil] at hread
        have hbytes : c.kind.tag :: bytes = c.toBytes ++ bytes.drop c.kind.payloadLength := by
          rw [toBytes, List.cons_append, ← hpayload, List.take_append_drop]
        simp only [if_neg hshort, hpayload, hread]
        rw [hbytes, decode_toBytes_append]
        rfl

/-! ### What decoding answers -/

theorem ofTag?_eq_none_iff : Kind.ofTag? tag = none ↔ ∀ kind : Kind, kind.tag ≠ tag := by
  constructor
  · intro h kind htag
    rw [← htag, Kind.ofTag?_tag] at h
    cases h
  · intro h
    cases hfound : Kind.ofTag? tag with
    | none => rfl
    | some kind => exact absurd (Kind.tag_of_ofTag? hfound) (h kind)

/-- There is a command, or a byte that is no tag, or too few bytes. -/
theorem decode_cases (bytes : List UInt8) :
    (∃ c, decode bytes = .ok c) ∨ (∃ tag, decode bytes = .error (.invalidCommand tag)) ∨
      decode bytes = .error .unexpectedEnd := by
  unfold decode
  split
  · exact .inr (.inr rfl)
  · split
    · exact .inr (.inl ⟨_, rfl⟩)
    · split
      · exact .inr (.inr rfl)
      · exact .inl ⟨_, rfl⟩

/-- **A command is decoded exactly where a tag is followed by bytes enough.** -/
theorem exists_decode_iff :
    (∃ c, decode bytes = .ok c) ↔
      ∃ kind : Kind, bytes.head? = some kind.tag ∧ kind.recordLength ≤ bytes.length := by
  constructor
  · intro h
    obtain ⟨c, hc⟩ := h
    obtain ⟨rest, rfl⟩ := decode_eq_ok_iff.1 hc
    refine ⟨c.kind, rfl, ?_⟩
    rw [List.length_append, length_toBytes]
    exact Nat.le_add_right _ _
  · intro h
    obtain ⟨kind, htag, hlength⟩ := h
    obtain ⟨bytes, rfl⟩ := List.head?_eq_some_iff.1 htag
    rw [List.length_cons, Kind.recordLength] at hlength
    have hroom : kind.payloadLength ≤ bytes.length := by omega
    obtain ⟨c, -, hc⟩ := exists_decode_of_tag hroom
    exact ⟨c, hc⟩

theorem decode_eq_invalidCommand_iff :
    decode bytes = .error (.invalidCommand tag) ↔
      bytes.head? = some tag ∧ ∀ kind : Kind, kind.tag ≠ tag := by
  constructor
  · intro h
    unfold decode at h
    split at h
    · cases h
    · split at h
      · rename_i hfound
        cases h
        exact ⟨rfl, ofTag?_eq_none_iff.1 hfound⟩
      · split at h <;> cases h
  · intro h
    obtain ⟨hhead, hno⟩ := h
    obtain ⟨bytes, rfl⟩ := List.head?_eq_some_iff.1 hhead
    simp only [decode, ofTag?_eq_none_iff.2 hno]

/-- In all other cases the bytes have come to their end. -/
theorem decode_eq_unexpectedEnd_iff :
    decode bytes = .error .unexpectedEnd ↔
      (¬∃ kind : Kind, bytes.head? = some kind.tag ∧ kind.recordLength ≤ bytes.length) ∧
        ¬∃ tag, bytes.head? = some tag ∧ ∀ kind : Kind, kind.tag ≠ tag := by
  simp only [← exists_decode_iff, ← decode_eq_invalidCommand_iff]
  constructor
  · intro h
    rw [h]
    exact ⟨nofun, nofun⟩
  · intro h
    exact ((decode_cases bytes).resolve_left h.1).resolve_left h.2

/-! ### Records in a row -/

/-- **A record that is cut off anywhere is told to end too early.** -/
theorem decode_take (c : Command) (n : Nat) :
    decode (c.toBytes.take n) =
      if n < c.kind.recordLength then .error .unexpectedEnd else .ok c := by
  by_cases hn : n < c.kind.recordLength
  · rw [if_pos hn, decode_eq_unexpectedEnd_iff]
    -- what is left of the record begins with its tag, if anything is left
    have htag {tag : UInt8} (h : (c.toBytes.take n).head? = some tag) : c.kind.tag = tag := by
      rw [List.head?_take] at h
      split at h
      · cases h
      · exact Option.some.inj h
    constructor
    · intro h
      obtain ⟨kind, hhead, hlength⟩ := h
      obtain rfl := Kind.tag_injective (htag hhead)
      rw [List.length_take, length_toBytes] at hlength
      omega
    · intro h
      obtain ⟨tag, hhead, hno⟩ := h
      exact hno c.kind (htag hhead)
  · rw [if_neg hn, List.take_of_length_le (by rw [length_toBytes]; omega)]
    exact decode_eq_ok_iff.2 ⟨[], (List.append_nil _).symm⟩

/-- No record begins the record of another command. -/
theorem toBytes_prefix_iff {c d : Command} : c.toBytes <+: d.toBytes ↔ c = d := by
  constructor
  · intro h
    obtain ⟨rest, hrest⟩ := h
    have hc : decode d.toBytes = .ok c := decode_eq_ok_iff.2 ⟨rest, hrest.symm⟩
    have hd : decode d.toBytes = .ok d := decode_eq_ok_iff.2 ⟨[], (List.append_nil _).symm⟩
    rw [hc] at hd
    exact Except.ok.inj hd
  · rintro rfl
    exact List.prefix_refl _

/-- **Records in a row are those of one list of commands only.** -/
theorem encodeAll_injective {cs ds : List Command} (h : encodeAll cs = encodeAll ds) : cs = ds := by
  have hdecoded := congrArg decodeAll h
  rw [decodeAll_encodeAll, decodeAll_encodeAll] at hdecoded
  exact (List.map_inj_right fun _ _ => Except.ok.inj).1 hdecoded

/-! ### The grammar -/

/-- **Decoding accepts exactly the bytes that begin with a tag and have as many more as its kind
needs**, refuses a first byte that is no tag as such, and tells of an early end in all other cases;
the fields do not run out of the payload.  So a record that is cut off ends too early, no record
begins another, and records in a row are those of one list of commands only. -/
theorem decode_grammar :
    (∀ bytes, decode bytes = decodeByFields bytes ∧
      ((∃ c, decode bytes = .ok c) ↔
        ∃ kind : Kind, bytes.head? = some kind.tag ∧ kind.recordLength ≤ bytes.length) ∧
      (∀ tag, decode bytes = .error (.invalidCommand tag) ↔
        bytes.head? = some tag ∧ ∀ kind : Kind, kind.tag ≠ tag) ∧
      (decode bytes = .error .unexpectedEnd ↔
        (¬∃ kind : Kind, bytes.head? = some kind.tag ∧ kind.recordLength ≤ bytes.length) ∧
          ¬∃ tag, bytes.head? = some tag ∧ ∀ kind : Kind, kind.tag ≠ tag)) ∧
    (∀ (kind : Kind) (payload : List UInt8), payload.length = kind.payloadLength →
      ∃ c, (FieldReader.command kind).run payload = .ok (c, [])) ∧
    (∀ (c : Command) (n : Nat), decode (c.toBytes.take n) =
      if n < c.kind.recordLength then .error .unexpectedEnd else .ok c) ∧
    (∀ c d : Command, c.toBytes <+: d.toBytes ↔ c = d) ∧
    ∀ cs ds : List Command, encodeAll cs = encodeAll ds ↔ cs = ds := by
  refine ⟨?_, fun _ _ => exists_run_command, decode_take, fun _ _ => toBytes_prefix_iff, ?_⟩
  · intro bytes
    exact ⟨(decodeByFields_eq bytes).symm, exists_decode_iff,
      fun _ => decode_eq_invalidCommand_iff, decode_eq_unexpectedEnd_iff⟩
  · intro cs ds
    exact ⟨encodeAll_injective, congrArg encodeAll⟩

/-- The fields of a line read off 28 bytes, which leaves none; with a byte less behind the tag the
record is told to end too early. -/
theorem decode_grammar_line :
    let line : Command := .lineInfo { lengthInCommands := 3, lineNumber := 1 }
    let payload := line.toBytes.drop 1
    payload.length = Kind.lineInfo.payloadLength ∧
      (∃ c, (FieldReader.command .lineInfo).run payload = .ok (c, [])) ∧
      decode (line.toBytes.take 28) = .error .unexpectedEnd := by
  intro line payload
  have hlength : payload.length = Kind.lineInfo.payloadLength := by decide
  exact ⟨hlength, decode_grammar.2.1 .lineInfo payload hlength, decode_grammar.2.2.1 line 28⟩

end StyledText.Command
