import Mathlib.Control.Monad.Basic
import StyledText.Proofs.Stream.Run

/-!
# Marks of other streams

A mark names its line by an index and by a byte offset, and the two belong together only in the
stream that handed the mark out.  Any other stream compares the count of clearings, then the index
with its own number of commands, and then the byte at the offset with the tag of a line.  All three
can agree by chance, with a byte of a payload or with a line of another index, and then a record is
written over whatever stands at the offset.

What becomes of the stream is told here for every mark.  The record that is written **does no harm
exactly when all that it changes lies in the payload of the command of the mark's index**, which
opens a line.  That is so whenever the line stands where the mark says.

* `Represents.perform_endLine_of_not_refuses` — what a mark does that is not refused.
* `Represents.spares_iff` — when that does no harm.
* `endLine_foreign_iff` — the marks of one stream in another, and `endLine_foreign_damages` — a mark
  that leaves the commands behind its place unreadable.
-/

namespace StyledText

open Command

/-- What differs is some of what was written. -/
theorem forall_writtenAt_iff {bytes new : List UInt8} {offset : Nat} {P : Nat → Prop}
    (h : offset + new.length ≤ bytes.length) :
    (∀ j, (writtenAt bytes offset new)[j]? ≠ bytes[j]? → P j) ↔
      ∀ k < new.length, bytes[offset + k]? ≠ new[k]? → P (offset + k) := by
  constructor
  · intro hall k hk hdiff
    refine hall (offset + k) ?_
    rw [getElem?_writtenAt h, if_pos ⟨by omega, by omega⟩, Nat.add_sub_cancel_left]
    exact hdiff.symm
  · intro hall j hdiff
    rw [getElem?_writtenAt h] at hdiff
    by_cases hj : offset ≤ j ∧ j < offset + new.length
    · rw [if_pos hj] at hdiff
      have hnew := hall (j - offset) (by omega)
      rw [Nat.add_sub_cancel' hj.1] at hnew
      exact hnew hdiff.symm
    · rw [if_neg hj] at hdiff
      exact absurd rfl hdiff

namespace Command

/-- A command that opens a line is replaced by writing its new record over the old one. -/
theorem encodeAll_set_lineInfo {cs : List Command} {p : Nat} {old : LineInfo}
    (h : cs[p]? = some (.lineInfo old)) (new : LineInfo) :
    encodeAll (cs.set p (.lineInfo new)) =
      writtenAt (encodeAll cs) (Cursor.ofIndex cs p).offset (toBytes (.lineInfo new)) := by
  rw [encodeAll_set h, writtenAt, length_toBytes, Cursor.offset_ofIndex]
  rfl

/-- Such a replacement changes no kind. -/
theorem map_kind_set_lineInfo {cs : List Command} {p : Nat} {old : LineInfo}
    (h : cs[p]? = some (.lineInfo old)) (new : LineInfo) :
    (cs.set p (.lineInfo new)).map kind = cs.map kind := by
  have hmap : (cs.map kind)[p]? = some .lineInfo := by
    rw [List.getElem?_map, h]
    rfl
  obtain ⟨hlt, hget⟩ := List.getElem?_eq_some_iff.1 hmap
  rw [List.map_set]
  show (cs.map kind).set p Kind.lineInfo = cs.map kind
  rw [← hget, List.set_getElem_self]

/-- The indices of the bytes that are the payload of a command that opens a line. -/
def InPayload (cs : List Command) (p j : Nat) : Prop :=
  (Cursor.ofIndex cs p).offset < j ∧ j < (Cursor.ofIndex cs p).offset + Kind.lineInfo.recordLength

/-- Putting another such command in place of one changes nothing but its payload. -/
theorem getElem?_encodeAll_set {cs : List Command} {p j : Nat} {old : LineInfo}
    (h : cs[p]? = some (.lineInfo old)) (new : LineInfo) (hj : ¬InPayload cs p j) :
    (encodeAll (cs.set p (.lineInfo new)))[j]? = (encodeAll cs)[j]? := by
  have hfits : (Cursor.ofIndex cs p).offset + (toBytes (.lineInfo new)).length ≤
      (encodeAll cs).length := by
    rw [length_toBytes]
    exact recordsLength_take_add_le (c := .lineInfo old) h
  rw [encodeAll_set_lineInfo h, getElem?_writtenAt hfits, length_toBytes]
  by_cases hin : (Cursor.ofIndex cs p).offset ≤ j ∧
      j < (Cursor.ofIndex cs p).offset + (lineInfo new).kind.recordLength
  · have hstart : j = (Cursor.ofIndex cs p).offset :=
      Nat.le_antisymm (Nat.not_lt.1 fun hlt => hj ⟨hlt, hin.2⟩) hin.1
    rw [if_pos hin, hstart, Nat.sub_self]
    exact (getElem?_encodeAll h).symm
  · rw [if_neg hin]

/-- Bytes that differ from records only in the payload of a command that opens a line are the
records with another such command in its place. -/
theorem exists_eq_encodeAll_set {cs : List Command} {p : Nat} {old : LineInfo}
    {bytes : List UInt8} (h : cs[p]? = some (.lineInfo old))
    (hlength : bytes.length = (encodeAll cs).length)
    (hpayload : ∀ j, bytes[j]? ≠ (encodeAll cs)[j]? → InPayload cs p j) :
    ∃ new, bytes = encodeAll (cs.set p (.lineInfo new)) := by
  let start := (Cursor.ofIndex cs p).offset
  have hsame (j : Nat) (hj : ¬InPayload cs p j) : bytes[j]? = (encodeAll cs)[j]? :=
    Decidable.not_not.1 (mt (hpayload j) hj)
  have hfits : start + Kind.lineInfo.recordLength ≤ bytes.length :=
    hlength ▸ recordsLength_take_add_le h
  -- the tag is still there, and behind it are bytes enough for a payload
  obtain ⟨new, rest, hrest⟩ : ∃ new rest, bytes.drop start = toBytes (.lineInfo new) ++ rest := by
    have htag : bytes[start]? = some Kind.lineInfo.tag := by
      rw [hsame start fun hin => Nat.lt_irrefl _ hin.1]
      exact getElem?_encodeAll h
    obtain ⟨hlt, hget⟩ := List.getElem?_eq_some_iff.1 htag
    have hroom : Kind.lineInfo.payloadLength ≤ (bytes.drop (start + 1)).length := by
      rw [List.length_drop]
      rw [Kind.recordLength] at hfits
      omega
    obtain ⟨c, hkind, hdecode⟩ := exists_decode_of_tag hroom
    obtain ⟨new, rfl⟩ := eq_lineInfo_of_kind hkind
    rw [List.drop_eq_getElem_cons hlt, hget]
    exact ⟨new, exists_append_of_decode hdecode⟩
  refine ⟨new, List.ext_getElem? fun j => ?_⟩
  by_cases hj : InPayload cs p j
  · have hnew : (toBytes (.lineInfo new)).length = Kind.lineInfo.recordLength := length_toBytes _
    rw [encodeAll_set_lineInfo h, getElem?_writtenAt (by rw [hnew, ← hlength]; exact hfits), hnew,
      if_pos ⟨Nat.le_of_lt hj.1, hj.2⟩]
    calc bytes[j]?
        _ = (bytes.drop start)[j - start]? := by
          rw [List.getElem?_drop, Nat.add_sub_cancel' (Nat.le_of_lt hj.1)]
        _ = (toBytes (.lineInfo new))[j - start]? := by
          rw [hrest, List.getElem?_append_left]
          rw [hnew]
          exact Nat.sub_lt_left_of_lt_add (Nat.le_of_lt hj.1) hj.2
  · rw [getElem?_encodeAll_set h new hj]
    exact hsame j hj

end Command

/-! ### Marks -/

/-- The command that ending the line of a mark puts in place of the one that opened it, in a stream
of `count` commands. -/
def LineMark.ended (mark : LineMark) (count : Nat) : Command :=
  .lineInfo { mark.info with lengthInCommands := UInt32.ofNat (count - (mark.place.index + 1)) }

/-- The command of the mark's index opens a line, and the record that is written at the offset of
the mark changes nothing but the payload of that command. -/
structure LineMark.StaysIn (mark : LineMark) (cs : List Command) : Prop where
  opens : ∃ info, cs[mark.place.index]? = some (.lineInfo info)
  /-- Where the record differs from what it is written over, there is the payload. -/
  inPayload : ∀ k < Kind.lineInfo.recordLength,
    (encodeAll cs)[mark.place.offset + k]? ≠ (mark.ended cs.length).toBytes[k]? →
      InPayload cs mark.place.index (mark.place.offset + k)

namespace LineMark

variable {mark : LineMark} {cs : List Command}

theorem length_toBytes_ended (mark : LineMark) (count : Nat) :
    (mark.ended count).toBytes.length = Kind.lineInfo.recordLength := length_toBytes _

/-- A record that changes nothing but a payload has room where it is written. -/
theorem StaysIn.room (h : mark.StaysIn cs) :
    mark.place.offset + Kind.lineInfo.recordLength ≤ (encodeAll cs).length := by
  obtain ⟨info, hinfo⟩ := h.opens
  -- if the last byte of the record were beyond the end, it would differ from what is there
  apply Nat.not_lt.1
  intro hshort
  have hbeyond : (encodeAll cs)[mark.place.offset + 28]? = none :=
    List.getElem?_eq_none (Nat.lt_succ_iff.1 hshort)
  have hlast : (mark.ended cs.length).toBytes[28]? ≠ none := by
    rw [Ne, List.getElem?_eq_none_iff, length_toBytes_ended]
    decide
  have hpayload := (h.inPayload 28 (by decide) (hbeyond ▸ hlast.symm)).2
  have hfits : (Cursor.ofIndex cs mark.place.index).offset + Kind.lineInfo.recordLength ≤
      (encodeAll cs).length := recordsLength_take_add_le hinfo
  have hend := List.getElem?_eq_none_iff.1 hbeyond
  omega

/-- A mark at whose place a command opens a line changes nothing but the payload of that command. -/
theorem staysIn_of_place {info : LineInfo} (hplace : mark.place = .ofIndex cs mark.place.index)
    (hinfo : cs[mark.place.index]? = some (.lineInfo info)) : mark.StaysIn cs := by
  have hoffset : mark.place.offset = (Cursor.ofIndex cs mark.place.index).offset :=
    congrArg Cursor.offset hplace
  refine ⟨⟨info, hinfo⟩, fun k hk hdiff => ?_⟩
  rw [hoffset] at hdiff ⊢
  -- the tag is that of every line, so it does not differ
  have hpos : 0 < k := by
    apply Nat.pos_of_ne_zero
    intro hzero
    subst hzero
    exact hdiff (getElem?_encodeAll (c := .lineInfo info) hinfo)
  exact ⟨Nat.lt_add_of_pos_right hpos, Nat.add_lt_add_left hk _⟩

end LineMark

namespace Stream

variable {α β : Type} {s : Stream α} {cs : List Command} {mark : LineMark}

/-- The mark is of another count of clearings, its index is beyond the commands, or no tag of a line
stands at its offset. -/
def Refuses (s : Stream α) (mark : LineMark) : Prop :=
  mark.generation ≠ s.generation ∨ s.commandCount ≤ mark.place.index ∨
    s.buffer.bytes[mark.place.offset]? ≠ some Kind.lineInfo.tag

/-- Ending a line with the mark does no harm: either it is refused and nothing is changed, or it
replaces the command of the mark's index, which opened a line and still does, and nothing else.  A
record that would reach beyond the last byte is not a refusal, since nothing was found amiss. -/
def Spares (s : Stream α) (cs : List Command) (mark : LineMark) : Prop :=
  (∃ e, e ≠ .outOfBounds ∧ s.perform (.endLine mark) = (.fault e, s)) ∨
    ∃ old new after, cs[mark.place.index]? = some (.lineInfo old) ∧
      s.perform (.endLine mark) = (.done, after) ∧
      after.commands = (cs.set mark.place.index (.lineInfo new)).map .ok ∧
      after = s.withCommands (cs.set mark.place.index (.lineInfo new))

theorem not_refuses_iff : ¬s.Refuses mark ↔
    mark.generation = s.generation ∧ mark.place.index < s.commandCount ∧
      s.buffer.bytes[mark.place.offset]? = some Kind.lineInfo.tag := by
  simp only [Refuses, not_or, Decidable.not_not, Nat.not_le]

/-- A mark of the present count with a command at its index is written to the buffer. -/
theorem perform_endLine_of_current (hgeneration : mark.generation = s.generation)
    (hindex : mark.place.index < s.commandCount) :
    s.perform (.endLine mark) =
      match s.buffer.overwrite mark.place (mark.ended s.commandCount) with
      | .error e => (.fault e, s)
      | .ok buffer => (.done, { s with buffer }) := by
  rw [perform, endLine, if_neg (not_not_intro hgeneration),
    if_neg (show ¬s.buffer.count < mark.place.index + 1 from Nat.not_lt.2 hindex)]
  show s.orUnchanged _ (Except.map _
    (match s.buffer.overwrite mark.place (mark.ended s.commandCount) with
    | .error e => .error e
    | .ok buffer => .ok { s with buffer })) = _
  cases s.buffer.overwrite mark.place (mark.ended s.commandCount) <;> rfl

/-- A mark that is refused gives a fault, and changes nothing. -/
theorem perform_endLine_of_refuses (h : s.Refuses mark) :
    ∃ e, e ≠ .outOfBounds ∧ s.perform (.endLine mark) = (.fault e, s) := by
  by_cases hstale : mark.generation ≠ s.generation
  · refine ⟨.staleLineMark mark.place.index, by simp, ?_⟩
    rw [perform, endLine, if_pos hstale]
    rfl
  by_cases hindex : s.buffer.count < mark.place.index + 1
  · refine ⟨.indexOutOfRange mark.place.index s.buffer.count, by simp, ?_⟩
    rw [perform, endLine, if_neg hstale, if_pos hindex]
    rfl
  have htag : s.buffer.bytes[mark.place.offset]? ≠ some (mark.ended s.commandCount).kind.tag := by
    rcases h with h | h | h
    · exact absurd h hstale
    · exact absurd (Nat.lt_succ_of_le h) hindex
    · exact h
  obtain ⟨e, he, hne⟩ := RecordBuffer.exists_overwrite_of_tag_ne htag
  rw [perform_endLine_of_current (Decidable.not_not.1 hstale) (Nat.not_lt.1 hindex), he]
  exact ⟨e, hne, rfl⟩

namespace Represents

/-- A mark that is not refused has its record written at its offset, whatever stands there, unless
there is no room for it. -/
theorem perform_endLine_of_not_refuses (h : s.Represents cs) (hmark : ¬s.Refuses mark) :
    s.perform (.endLine mark) =
      if (encodeAll cs).length < mark.place.offset + Kind.lineInfo.recordLength then
        (.fault .outOfBounds, s)
      else (.done, { s with buffer := { s.buffer with
        bytes := writtenAt (encodeAll cs) mark.place.offset (mark.ended cs.length).toBytes } }) := by
  obtain ⟨hgeneration, hindex, htag⟩ := not_refuses_iff.1 hmark
  have hkind : (mark.ended cs.length).kind = .lineInfo := rfl
  rw [perform_endLine_of_current hgeneration hindex, h.commandCount_eq,
    RecordBuffer.overwrite_of_tag htag, h.holds.bytes_eq, hkind]
  by_cases hroom : (encodeAll cs).length < mark.place.offset + Kind.lineInfo.recordLength
  · rw [if_pos hroom, if_pos hroom]
  · rw [if_neg hroom, if_neg hroom]

/-- **When a mark does no harm**, whatever stream it is of. -/
theorem spares_iff (h : s.Represents cs) (mark : LineMark) :
    s.Spares cs mark ↔ s.Refuses mark ∨ mark.StaysIn cs := by
  by_cases hmark : s.Refuses mark
  · exact iff_of_true (.inl (perform_endLine_of_refuses hmark)) (.inl hmark)
  rw [Spares, h.perform_endLine_of_not_refuses hmark]
  constructor
  · intro hspares
    right
    by_cases hshort : (encodeAll cs).length < mark.place.offset + Kind.lineInfo.recordLength
    · rw [if_pos hshort] at hspares
      rcases hspares with ⟨e, hne, he⟩ | ⟨old, new, after, hold, hafter, _⟩
      · cases he
        exact absurd rfl hne
      · cases hafter
    · rw [if_neg hshort] at hspares
      rcases hspares with ⟨e, hne, he⟩ | ⟨old, new, after, hold, hafter, _, hwith⟩
      · cases he
      · cases hafter
        have hbytes := congrArg (fun s : Stream α => s.buffer.bytes) hwith
        refine ⟨⟨old, hold⟩, ?_⟩
        rw [← mark.length_toBytes_ended cs.length] at hshort ⊢
        refine (forall_writtenAt_iff (Nat.not_lt.1 hshort)).1 fun j hdiff => ?_
        apply Classical.not_not.1
        intro hj
        exact hdiff ((congrArg (·[j]?) hbytes).trans (getElem?_encodeAll_set hold new hj))
  · intro hstays
    have hstays := hstays.resolve_left hmark
    obtain ⟨old, hold⟩ := hstays.opens
    have hroom := hstays.room
    have hpayload := hstays.inPayload
    rw [if_neg (Nat.not_lt.2 hroom)]
    rw [← mark.length_toBytes_ended cs.length] at hroom hpayload
    obtain ⟨new, hnew⟩ := exists_eq_encodeAll_set hold (length_writtenAt hroom)
      ((forall_writtenAt_iff hroom).2 hpayload)
    have hwith := h.withCommands (map_kind_set_lineInfo hold new)
    rw [hnew]
    exact .inr ⟨old, new, _, hold, rfl, hwith.commands_eq, rfl⟩

/-- A mark does no harm where a command starts that it could be of. -/
theorem spares_of_place (h : s.Represents cs)
    (hplace : mark.place = .ofIndex cs mark.place.index) : s.Spares cs mark := by
  rw [h.spares_iff]
  by_cases hmark : s.Refuses mark
  · exact .inl hmark
  right
  obtain ⟨-, hindex, htag⟩ := not_refuses_iff.1 hmark
  rw [h.commandCount_eq] at hindex
  have hget := List.getElem?_eq_getElem hindex
  rw [h.holds.bytes_eq, congrArg Cursor.offset hplace, Cursor.offset_ofIndex,
    getElem?_encodeAll hget] at htag
  obtain ⟨info, hinfo⟩ := eq_lineInfo_of_kind (Kind.tag_injective (Option.some.inj htag))
  exact LineMark.staysIn_of_place hplace (hget.trans (congrArg some hinfo))

end Represents

/-! ### Marks of one stream in another -/

/-- **When a mark of one stream does no harm in another.**  It is refused, or all that it changes
lies in the payload of the line that has its index there.  That is so when the two streams begin
with commands that take the same number of bytes, up to the line of the mark. -/
theorem endLine_foreign_iff {first : Stream α} {second : Stream β} {cs ds : List Command}
    (hfirst : first.Reached cs) (hsecond : second.Reached ds) (info : LineInfo) :
    let mark := (first.beginLine info).1
    (second.Spares ds mark ↔ second.Refuses mark ∨ mark.StaysIn ds) ∧
      (recordsLength cs = recordsLength (ds.take cs.length) → second.Spares ds mark) := by
  intro mark
  refine ⟨hsecond.represents.spares_iff mark, ?_⟩
  intro hlength
  have hplace : mark.place = .ofIndex cs cs.length := hfirst.represents.holds.endCursor_eq
  apply hsecond.represents.spares_of_place
  rw [hplace, Cursor.index_ofIndex, Cursor.ofIndex, List.take_length, hlength]
  rfl

/-- A mark is taken behind a block and used where a hyphen, which takes as many bytes, is followed
by a line.  That line is ended. -/
theorem endLine_foreign_iff_hyphen :
    let ds : List Command := [.hyphen .zero, .lineInfo { lineNumber := 7 }, .toggleBold]
    let first : Stream Unit := ((ofConfig {}).run [.write (.blockInfo {})]).2
    let second : Stream Unit := ((ofConfig {}).run (ds.map .write)).2
    let mark := (first.beginLine {}).1
    first.Reached [.blockInfo {}] ∧ second.Reached ds ∧ second.Spares ds mark ∧
      second.perform (.endLine mark) =
        (.done, second.withCommands (ds.set 1 (.lineInfo { lengthInCommands := 1 }))) := by
  intro ds first second mark
  have hfirst : first.Reached [.blockInfo {}] := ⟨{}, [.write (.blockInfo {})], by decide, rfl, rfl⟩
  have hsecond : second.Reached ds := ⟨{}, ds.map .write, by decide, rfl, by decide⟩
  exact ⟨hfirst, hsecond, (endLine_foreign_iff hfirst hsecond {}).2 rfl, rfl⟩

/-- **A mark of one stream can damage another.**  The mark is taken behind a block, at index 1 and
byte offset 17.  There the other stream has a payload that holds the tag of a line by chance, in the
record of index 3.  Ending the line succeeds, changes that record, and leaves the next one without
its tag. -/
theorem endLine_foreign_damages :
    let ds : List Command :=
      [.pushStyle 512, .pushStyle 512, .pushStyle 512, .pushStyle 512, .hyphen .zero, .hyphen .zero]
    let first : Stream Unit := ((ofConfig {}).run [.write (.blockInfo {})]).2
    let second : Stream Unit := ((ofConfig {}).run (ds.map .write)).2
    let mark := (first.beginLine {}).1
    let damaged := second.perform (.endLine mark)
    first.Reached [.blockInfo {}] ∧ second.Reached ds ∧ mark.place = ⟨1, 17⟩ ∧
      damaged.1 = .done ∧
      damaged.2.commands = [.ok (.pushStyle 512), .ok (.pushStyle 512), .ok (.pushStyle 512),
        .ok (.pushStyle 0x40200), .error (.invalidCommand 0)] ∧
      ¬second.Spares ds mark := by
  intro ds first second mark damaged
  have hfirst : first.Reached [.blockInfo {}] := ⟨{}, [.write (.blockInfo {})], by decide, rfl, rfl⟩
  have hsecond : second.Reached ds := ⟨{}, ds.map .write, by decide, rfl, by decide⟩
  have hdone : damaged.1 = .done := rfl
  have hcommands : damaged.2.commands = [.ok (.pushStyle 512), .ok (.pushStyle 512),
      .ok (.pushStyle 512), .ok (.pushStyle 0x40200), .error (.invalidCommand 0)] := by
    decide +kernel
  refine ⟨hfirst, hsecond, rfl, hdone, hcommands, ?_⟩
  intro hspares
  rcases hspares with ⟨e, -, he⟩ | ⟨old, new, after, hold, -⟩
  · cases hdone.symm.trans (congrArg Prod.fst he)
  · cases hold

end Stream

end StyledText
