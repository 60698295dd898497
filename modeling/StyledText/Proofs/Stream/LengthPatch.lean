import StyledText.Proofs.Stream.StaleMark

/-!
# What ending a line changes

The record of a line is written when the line is opened, and it is written once more, as a whole,
when the line is ended.  All but one word of it is known from the mark and is what stands there
already, so of all bytes of the stream **only the four of the length are changed**.  They can be
changed again and again, by the same mark, while other lines are opened and ended in between: what
the mark says of its place and of its line stays true until the stream is cleared.

* `Command.encodeAll_set_length` — another length in the record of a line is four bytes written
  over.
* `Stream.exists_opens_of_beginLine` — a mark stays good until the stream is cleared.
* `Stream.withBytes` — a stream of which only the bytes are changed.
* `Stream.endLine_patches_length` — what ending a line does.
-/

namespace StyledText

open Number

namespace Command

/-- **Another length for a line is four bytes written over**, those behind the tag of its record. -/
theorem encodeAll_set_length {cs : List Command} {p : Nat} {info : LineInfo}
    (h : cs[p]? = some (.lineInfo info)) (length : UInt32) :
    encodeAll (cs.set p (.lineInfo { info with lengthInCommands := length })) =
      writtenAt (encodeAll cs) ((Cursor.ofIndex cs p).offset + 1) (wordBytes length) := by
  have hlt := (List.getElem?_eq_some_iff.1 h).1
  let front := encodeAll (cs.take p) ++ [Kind.lineInfo.tag]
  let back := wordsBytes (info.lineNumber :: (rectWords info.bounds ++ [info.baseline.bits])) ++
    encodeAll (cs.drop (p + 1))
  have hfront : front.length = (Cursor.ofIndex cs p).offset + 1 := by
    rw [List.length_append, length_encodeAll]
    rfl
  -- a line stands between what comes before its length and what comes behind
  have hrecord (word : UInt32) : encodeAll (cs.take p) ++
      (toBytes (.lineInfo { info with lengthInCommands := word }) ++
        encodeAll (cs.drop (p + 1))) = front ++ (wordBytes word ++ back) := by
    show encodeAll (cs.take p) ++ (Kind.lineInfo.tag :: (wordBytes word ++ _) ++ _) = _
    rw [List.cons_append, List.append_assoc, List.append_cons]
    rfl
  have hsame : (wordBytes length).length = (wordBytes info.lengthInCommands).length := rfl
  calc encodeAll (cs.set p (.lineInfo { info with lengthInCommands := length }))
      _ = front ++ (wordBytes length ++ back) := by
        rw [List.set_eq_take_append_cons_drop, if_pos hlt, encodeAll_append, encodeAll_cons,
          hrecord]
      _ = writtenAt (front ++ (wordBytes info.lengthInCommands ++ back)) front.length
          (wordBytes length) := (writtenAt_append hsame).symm
      _ = writtenAt (encodeAll cs) ((Cursor.ofIndex cs p).offset + 1) (wordBytes length) := by
        rw [← hrecord, ← encodeAll_eq_of_getElem? h, hfront]

end Command

namespace Stream

open Command

variable {α : Type}

/-- The stream with other bytes, and everything else as it was. -/
def withBytes (s : Stream α) (bytes : List UInt8) : Stream α :=
  { s with buffer := { s.buffer with bytes := bytes } }

/-- **A mark stays good until the stream is cleared.**  Whatever is done after a line is opened, its
mark is of the present generation and opens a line in the commands of the stream. -/
theorem exists_opens_of_beginLine (config : StreamConfig) (before between : List (Operation α))
    (info : LineInfo)
    (huse : (ofConfig config : Stream α).UsesOwnMarks [] (before ++ .beginLine info :: between))
    (hclear : .clear ∉ between) :
    let opened := ((ofConfig config : Stream α).run before).2.beginLine info
    let after := (opened.2.run between).2
    ∃ cs, after.Represents cs ∧ opened.1.Opens cs ∧ opened.1.generation = after.generation := by
  intro opened after
  have hrun : ((ofConfig config : Stream α).run before).2.run (.beginLine info :: between) =
      (.mark opened.1 :: (opened.2.run between).1, after) := rfl
  obtain ⟨htracks, -⟩ := (Tracks.ofConfig config).run huse
  rw [run_append, hrun] at htracks
  have hmark : opened.1 ∈ ([] : List LineMark) ++ (((ofConfig config : Stream α).run before).1 ++
      .mark opened.1 :: (opened.2.run between).1).filterMap Outcome.mark? :=
    List.mem_filterMap.2 ⟨.mark opened.1, List.mem_append_right _ List.mem_cons_self, rfl⟩
  have hgeneration : opened.1.generation = after.generation := by
    have hnone : clearings between = 0 := Nat.eq_zero_of_not_pos (mt clearings_pos_iff.1 hclear)
    rw [generation_run, hnone]
    rfl
  exact ⟨_, htracks.represents, htracks.opens _ hmark hgeneration, hgeneration⟩

/-- **Ending a line fills in its length and changes nothing else.**  A line is opened somewhere in a
run that ends its own lines, and the stream is not cleared after that.  Then the mark is accepted,
be it for the first time or again: the command of its index is the line that was opened, with some
length, and gets the number of commands behind it for its length, as a word.  Of all bytes, only the
four of the length are written, and besides the bytes nothing of the stream is changed. -/
theorem endLine_patches_length (config : StreamConfig) (before between : List (Operation α))
    (info : LineInfo)
    (huse : (ofConfig config : Stream α).UsesOwnMarks [] (before ++ .beginLine info :: between))
    (hclear : .clear ∉ between) :
    let opened := ((ofConfig config : Stream α).run before).2.beginLine info
    let mark := opened.1
    let after := (opened.2.run between).2
    let index := mark.place.index
    let length := UInt32.ofNat (after.commandCount - index - 1)
    let bytes := writtenAt after.buffer.bytes (mark.place.offset + 1) (wordBytes length)
    let ended := after.withBytes bytes
    ∃ cs old, after.commands = cs.map .ok ∧ index < after.commandCount ∧
      mark.place = .ofIndex cs index ∧
      cs[index]? = some (.lineInfo { info with lengthInCommands := old }) ∧
      after.perform (.endLine mark) = (.done, ended) ∧
      ended.commands =
        (cs.set index (.lineInfo { info with lengthInCommands := length })).map .ok ∧
      length.toNat = (after.commandCount - index - 1) % UInt32.size ∧
      bytes.length = after.buffer.bytes.length ∧
      ∀ j, ¬(mark.place.offset + 1 ≤ j ∧ j < mark.place.offset + 5) →
        bytes[j]? = after.buffer.bytes[j]? := by
  intro opened mark after index length bytes ended
  obtain ⟨cs, h, hopens, hgeneration⟩ :=
    exists_opens_of_beginLine config before between info huse hclear
  obtain ⟨old, hget⟩ := hopens.command
  have hcount : after.commandCount = cs.length := h.commandCount_eq
  have hlength : length = UInt32.ofNat (cs.length - (index + 1)) := by
    rw [← hcount, ← Nat.sub_sub]
  -- the record that is written differs from the old one in its length
  have hset : endLineAt cs index =
      cs.set index (.lineInfo { info with lengthInCommands := length }) := by
    rw [endLineAt_eq_set hget, hlength]
    rfl
  have hbytes : encodeAll (endLineAt cs index) = bytes := by
    rw [hset]
    show _ = writtenAt after.buffer.bytes (mark.place.offset + 1) (wordBytes length)
    rw [h.holds.bytes_eq, congrArg Cursor.offset hopens.place_eq]
    exact encodeAll_set_length hget length
  have hended : after.withCommands (endLineAt cs index) = ended := congrArg after.withBytes hbytes
  have hroom : mark.place.offset + 1 + (wordBytes length).length ≤ after.buffer.bytes.length := by
    have hle := h.holds.offset_add_le hget
    rw [← hopens.place_eq] at hle
    have hfits : 1 + (wordBytes length).length ≤ Kind.lineInfo.recordLength := by
      rw [length_wordBytes]
      decide
    exact Nat.le_trans (Nat.add_le_add_left hfits _) hle
  refine ⟨cs, old, h.commands_eq, ?_, hopens.place_eq, hget, ?_, ?_, ?_, ?_, ?_⟩
  · rw [hcount]
    exact hopens.index_lt
  · rw [perform, h.endLine_eq hopens hgeneration, ← hended]
    rfl
  · rw [← hended, (h.endLine index).commands_eq, hset]
  · exact UInt32.toNat_ofNat'
  · exact length_writtenAt hroom
  · intro j hj
    exact (getElem?_writtenAt hroom j).trans (if_neg hj)

/-- A line is ended early, another is opened in it and ended, and it is ended again.  Two commands
were behind it the first time, and now there are four. -/
theorem endLine_patches_length_nested :
    let outer : LineMark := ⟨⟨1, 17⟩, {}, 0⟩
    let inner : LineMark := ⟨⟨3, 47⟩, {}, 0⟩
    let before : List (Operation Unit) := [.write (.blockInfo {})]
    let between : List (Operation Unit) :=
      [.write .toggleBold, .beginLine {}, .endLine outer, .write .toggleItalic, .write .toggleBold,
        .endLine inner, .seek 2]
    let opened := ((ofConfig {} : Stream Unit).run before).2.beginLine {}
    let after := (opened.2.run between).2
    (ofConfig {} : Stream Unit).UsesOwnMarks [] (before ++ .beginLine {} :: between) ∧
      .clear ∉ between ∧
      after.perform (.endLine outer) =
        (.done, after.withBytes (writtenAt after.buffer.bytes 18 (wordBytes 4))) := by
  intro outer inner before between opened after
  have huse : (ofConfig {} : Stream Unit).UsesOwnMarks [] (before ++ .beginLine {} :: between) := by
    decide
  have hclear : .clear ∉ between := mt clearings_pos_iff.2 (by decide)
  have hmark : opened.1 = outer := rfl
  have hlength : UInt32.ofNat (after.commandCount - opened.1.place.index - 1) = 4 := by decide
  obtain ⟨cs, old, -, -, -, -, hended, -⟩ := endLine_patches_length {} before between {} huse hclear
  rw [hlength, hmark] at hended
  exact ⟨huse, hclear, hended⟩

end Stream

end StyledText
