import StyledText.RecordBuffer.Basic
import StyledText.Proofs.Command.Codec

/-!
# The layout of a record buffer

A buffer **holds** a list of commands when its bytes are the records of these commands, one after
another, and its count is their number.  Such a buffer can be read at a place exactly when the place
is where a record starts, so the places of interest are `Cursor.ofIndex cs p`, one for every index:
the number `p` together with the length of the first `p` records.

* `writtenAt` — bytes of which some are written over.
* `decodeAll_encodeAll` — records in a row are decoded to their commands.
* `RecordBuffer.Holds.kindAt_ofIndex`, `commandAt_ofIndex` — what is seen at the place of an index.
* `RecordBuffer.Holds.write`, `RecordBuffer.Holds.overwrite` — what writing and patching do to the
  commands held.
-/

namespace StyledText

/-! ### Bytes written over others -/

/-- The bytes when some of them are written over, from an offset on. -/
def writtenAt (bytes : List UInt8) (offset : Nat) (new : List UInt8) : List UInt8 :=
  bytes.take offset ++ (new ++ bytes.drop (offset + new.length))

section

variable {bytes new : List UInt8} {offset : Nat}

/-- The bytes written are at the offset, and all others are as they were. -/
theorem getElem?_writtenAt (h : offset + new.length ≤ bytes.length) (j : Nat) :
    (writtenAt bytes offset new)[j]? =
      if offset ≤ j ∧ j < offset + new.length then new[j - offset]? else bytes[j]? := by
  have hfront : (bytes.take offset).length = offset := List.length_take_of_le (by omega)
  rw [writtenAt]
  by_cases hbefore : j < offset
  · rw [if_neg (by omega), List.getElem?_append_left (by omega), List.getElem?_take_of_lt hbefore]
  · rw [List.getElem?_append_right (by omega), hfront]
    by_cases hin : j < offset + new.length
    · rw [if_pos ⟨by omega, hin⟩, List.getElem?_append_left (by omega)]
    · rw [if_neg (by omega), List.getElem?_append_right (by omega), List.getElem?_drop]
      congr 1
      omega

theorem length_writtenAt (h : offset + new.length ≤ bytes.length) :
    (writtenAt bytes offset new).length = bytes.length := by
  rw [writtenAt, List.length_append, List.length_append, List.length_take_of_le (by omega),
    List.length_drop]
  omega

end

/-- Bytes can be exchanged for as many others by writing these over them. -/
theorem writtenAt_append {front old new back : List UInt8} (h : new.length = old.length) :
    writtenAt (front ++ (old ++ back)) front.length new = front ++ (new ++ back) := by
  rw [writtenAt, List.take_left, ← List.drop_drop, List.drop_left, h, List.drop_left]

namespace Command

/-! ### Records in a row -/

/-- The records of commands, one after another. -/
def encodeAll (cs : List Command) : List UInt8 := cs.flatMap toBytes

/-- The number of bytes that the records of commands take. -/
def recordsLength : List Command → Nat
  | [] => 0
  | c :: cs => c.kind.recordLength + recordsLength cs

@[simp] theorem encodeAll_nil : encodeAll [] = [] := rfl

@[simp] theorem encodeAll_cons (c : Command) (cs : List Command) :
    encodeAll (c :: cs) = c.toBytes ++ encodeAll cs := rfl

@[simp] theorem encodeAll_append (cs ds : List Command) :
    encodeAll (cs ++ ds) = encodeAll cs ++ encodeAll ds := List.flatMap_append

@[simp] theorem recordsLength_nil : recordsLength [] = 0 := rfl

@[simp] theorem recordsLength_cons (c : Command) (cs : List Command) :
    recordsLength (c :: cs) = c.kind.recordLength + recordsLength cs := rfl

@[simp] theorem recordsLength_append (cs ds : List Command) :
    recordsLength (cs ++ ds) = recordsLength cs + recordsLength ds := by
  induction cs with
  | nil => rw [List.nil_append, recordsLength_nil, Nat.zero_add]
  | cons c cs ih =>
    rw [List.cons_append, recordsLength_cons, ih, recordsLength_cons, Nat.add_assoc]

@[simp] theorem length_encodeAll (cs : List Command) :
    (encodeAll cs).length = recordsLength cs := by
  induction cs with
  | nil => rfl
  | cons c cs ih =>
    rw [encodeAll_cons, List.length_append, length_toBytes, ih, recordsLength_cons]

/-- Commands of the same kinds take the same number of bytes. -/
theorem recordsLength_eq_of_kinds {cs ds : List Command} (h : cs.map kind = ds.map kind) :
    recordsLength cs = recordsLength ds := by
  induction cs generalizing ds with
  | nil => rw [List.map_eq_nil_iff.1 h.symm]
  | cons c cs ih =>
    cases ds with
    | nil => cases h
    | cons d ds =>
      obtain ⟨hkind, htail⟩ := List.cons_eq_cons.1 h
      rw [recordsLength_cons, recordsLength_cons, hkind, ih htail]

/-- The records before an index, the record there, and the records behind it. -/
theorem encodeAll_eq_of_getElem? {cs : List Command} {p : Nat} {c : Command}
    (h : cs[p]? = some c) :
    encodeAll cs = encodeAll (cs.take p) ++ (c.toBytes ++ encodeAll (cs.drop (p + 1))) := by
  obtain ⟨hp, rfl⟩ := List.getElem?_eq_some_iff.1 h
  rw [← encodeAll_cons, ← List.drop_eq_getElem_cons hp, ← encodeAll_append,
    List.take_append_drop]

/-- A record lies within the bytes. -/
theorem recordsLength_take_add_le {cs : List Command} {p : Nat} {c : Command}
    (h : cs[p]? = some c) :
    recordsLength (cs.take p) + c.kind.recordLength ≤ (encodeAll cs).length := by
  rw [encodeAll_eq_of_getElem? h, List.length_append, List.length_append, length_encodeAll,
    length_toBytes]
  omega

/-- A record starts with the tag of its command. -/
theorem getElem?_encodeAll {cs : List Command} {p : Nat} {c : Command} (h : cs[p]? = some c) :
    (encodeAll cs)[recordsLength (cs.take p)]? = some c.kind.tag := by
  rw [encodeAll_eq_of_getElem? h, ← List.head?_drop, ← length_encodeAll, List.drop_left]
  rfl

/-- The records when one command is replaced: the bytes before the record of the old command, the
new record, and the bytes behind the old one. -/
theorem encodeAll_set {cs : List Command} {p : Nat} {old : Command} (h : cs[p]? = some old)
    (c : Command) :
    encodeAll (cs.set p c) = (encodeAll cs).take (recordsLength (cs.take p)) ++
      (c.toBytes ++ (encodeAll cs).drop (recordsLength (cs.take p) + old.kind.recordLength)) := by
  have hlt := (List.getElem?_eq_some_iff.1 h).1
  rw [encodeAll_eq_of_getElem? h, ← length_encodeAll, List.take_left, ← List.drop_drop,
    List.drop_left, ← length_toBytes, List.drop_left, List.set_eq_take_append_cons_drop,
    if_pos hlt, encodeAll_append, encodeAll_cons]

/-- A command that is decoded is the first, and the others are those of the bytes behind its
record. -/
theorem decodeAll_of_decode {bytes : List UInt8} {c : Command} (h : decode bytes = .ok c) :
    decodeAll bytes = .ok c :: decodeAll (bytes.drop c.kind.recordLength) := by
  cases bytes with
  | nil => cases h
  | cons tag bytes =>
    have hdrop : (tag :: bytes).drop c.kind.recordLength = bytes.drop c.kind.payloadLength := by
      rw [Kind.recordLength, Nat.add_comm, List.drop_succ_cons]
    rw [decodeAll, h, hdrop]

/-- A fault is the last. -/
theorem decodeAll_of_fault {bytes : List UInt8} {e : StreamError} (hbytes : bytes ≠ [])
    (h : decode bytes = .error e) : decodeAll bytes = [.error e] := by
  cases bytes with
  | nil => exact absurd rfl hbytes
  | cons tag bytes => rw [decodeAll, h]

/-- **Records in a row are decoded to their commands.** -/
theorem decodeAll_encodeAll (cs : List Command) : decodeAll (encodeAll cs) = cs.map .ok := by
  induction cs with
  | nil => rw [encodeAll_nil, decodeAll, List.map_nil]
  | cons c cs ih =>
    rw [encodeAll_cons, decodeAll_of_decode (decode_toBytes_append c _), ← length_toBytes,
      List.drop_left, ih, List.map_cons]

end Command

open Command

/-! ### The place of an index -/

/-- The place before the record of an index, when the records are those of `cs`. -/
def Cursor.ofIndex (cs : List Command) (index : Nat) : Cursor :=
  ⟨index, recordsLength (cs.take index)⟩

namespace Cursor

variable {cs ds : List Command} {p : Nat} {c : Command}

@[simp] theorem index_ofIndex : (ofIndex cs p).index = p := rfl

theorem offset_ofIndex : (ofIndex cs p).offset = recordsLength (cs.take p) := rfl

/-- The first record starts at the first byte. -/
theorem ofIndex_zero (cs : List Command) : ofIndex cs 0 = {} := rfl

/-- The place behind a record is the place before the next one. -/
theorem past_ofIndex (h : cs[p]? = some c) : (ofIndex cs p).past c.kind = ofIndex cs (p + 1) := by
  have htake : cs.take (p + 1) = cs.take p ++ [c] := by
    rw [List.take_add_one, h, Option.toList_some]
  show (⟨p + 1, recordsLength (cs.take p) + c.kind.recordLength⟩ : Cursor) = ofIndex cs (p + 1)
  simp only [ofIndex, htake, recordsLength_append, recordsLength_cons, recordsLength_nil,
    Nat.add_zero]

/-- Records further on do not move the places before them. -/
theorem ofIndex_append (h : p ≤ cs.length) : ofIndex (cs ++ ds) p = ofIndex cs p := by
  rw [ofIndex, ofIndex, List.take_append_of_le_length h]

/-- Records of the same kinds stand at the same places. -/
theorem ofIndex_eq_of_kinds (h : cs.map kind = ds.map kind) : ofIndex cs p = ofIndex ds p := by
  have htake : (cs.take p).map kind = (ds.take p).map kind := by
    rw [List.map_take, List.map_take, h]
  rw [ofIndex, ofIndex, recordsLength_eq_of_kinds htake]

end Cursor

/-! ### Buffers that hold commands -/

namespace RecordBuffer

/-- The kind of a record is told by the byte at its place. -/
theorem kindAt_eq_ok_iff {b : RecordBuffer} {place : Cursor} {kind : Kind} :
    b.kindAt place = .ok kind ↔ b.bytes[place.offset]? = some kind.tag := by
  rw [kindAt]
  cases b.bytes[place.offset]? with
  | none => exact ⟨nofun, nofun⟩
  | some tag =>
    constructor
    · intro h
      cases hfound : Kind.ofTag? tag with
      | none =>
        simp only [hfound] at h
        cases h
      | some found =>
        simp only [hfound] at h
        cases h
        rw [Kind.tag_of_ofTag? hfound]
    · intro h
      cases h
      simp only [Kind.ofTag?_tag]

theorem kindAt_ne_outOfBounds {b : RecordBuffer} {place : Cursor} :
    b.kindAt place ≠ .error .outOfBounds := by
  unfold kindAt
  split
  · exact nofun
  · split <;> exact nofun

/-- Where the tag of a command stands, its record is written over as many bytes, if there are as
many. -/
theorem overwrite_of_tag {b : RecordBuffer} {place : Cursor} {c : Command}
    (h : b.bytes[place.offset]? = some c.kind.tag) :
    b.overwrite place c =
      if b.bytes.length < place.offset + c.kind.recordLength then .error .outOfBounds
      else .ok { b with bytes := writtenAt b.bytes place.offset c.toBytes } := by
  rw [overwrite, kindAt_eq_ok_iff.2 h]
  show (if c.kind ≠ c.kind then _ else _) = _
  rw [if_neg (not_not_intro rfl), writtenAt, length_toBytes, List.append_assoc]

/-- Nothing is written where another tag stands, or none. -/
theorem exists_overwrite_of_tag_ne {b : RecordBuffer} {place : Cursor} {c : Command}
    (h : b.bytes[place.offset]? ≠ some c.kind.tag) :
    ∃ e, b.overwrite place c = .error e ∧ e ≠ .outOfBounds := by
  rw [overwrite]
  cases hkind : b.kindAt place with
  | error e => exact ⟨e, rfl, fun he => kindAt_ne_outOfBounds (he ▸ hkind)⟩
  | ok found =>
    have hfound : found ≠ c.kind := fun hfound => h (hfound ▸ kindAt_eq_ok_iff.1 hkind)
    exact ⟨_, if_pos hfound, nofun⟩

/-- The buffer holds the records of `cs` and nothing else. -/
structure Holds (b : RecordBuffer) (cs : List Command) : Prop where
  /-- The bytes are those of the records, in order. -/
  bytes_eq : b.bytes = encodeAll cs
  count_eq : b.count = cs.length

namespace Holds

variable {b : RecordBuffer} {cs : List Command} {p : Nat} {c : Command}

theorem empty : RecordBuffer.empty.Holds [] := ⟨rfl, rfl⟩

/-- Moving the cursor changes no record. -/
theorem moveTo (h : b.Holds cs) (place : Cursor) : (b.moveTo place).Holds cs :=
  ⟨h.bytes_eq, h.count_eq⟩

/-- All commands are listed, in order. -/
theorem commands_eq (h : b.Holds cs) : b.commands = cs.map .ok := by
  rw [commands, h.bytes_eq, decodeAll_encodeAll]

/-- The place behind the last record is that of the first index without a record. -/
theorem endCursor_eq (h : b.Holds cs) : b.endCursor = .ofIndex cs cs.length := by
  rw [endCursor, Cursor.ofIndex, h.count_eq, h.bytes_eq, List.take_length, length_encodeAll]

/-! #### Looking at the place of an index -/

theorem isEnd_ofIndex (h : b.Holds cs) : b.isEnd (.ofIndex cs p) = decide (cs.length ≤ p) := by
  rw [isEnd, h.count_eq, Cursor.index_ofIndex]

/-- From the place of an index on, the bytes are the record there and those behind it. -/
theorem drop_ofIndex (h : b.Holds cs) (hp : cs[p]? = some c) :
    b.bytes.drop (Cursor.ofIndex cs p).offset = c.toBytes ++ encodeAll (cs.drop (p + 1)) := by
  rw [h.bytes_eq, encodeAll_eq_of_getElem? hp, Cursor.offset_ofIndex, ← length_encodeAll,
    List.drop_left]

/-- The place of a record lies within the bytes. -/
theorem offset_add_le (h : b.Holds cs) (hp : cs[p]? = some c) :
    (Cursor.ofIndex cs p).offset + c.kind.recordLength ≤ b.bytes.length := by
  rw [h.bytes_eq, Cursor.offset_ofIndex]
  exact recordsLength_take_add_le hp

/-- At the place of an index stands the tag of its command. -/
theorem kindAt_ofIndex (h : b.Holds cs) (hp : cs[p]? = some c) :
    b.kindAt (.ofIndex cs p) = .ok c.kind := by
  rw [kindAt_eq_ok_iff, h.bytes_eq]
  exact getElem?_encodeAll hp

theorem kindAt?_ofIndex (h : b.Holds cs) : b.kindAt? (.ofIndex cs p) = .ok (cs[p]?.map kind) := by
  rw [kindAt?, h.isEnd_ofIndex]
  by_cases hp : cs.length ≤ p
  · rw [if_pos (decide_eq_true hp), List.getElem?_eq_none hp, Option.map_none]
  · have hget := List.getElem?_eq_getElem (Nat.lt_of_not_le hp)
    rw [if_neg (by simpa using hp), h.kindAt_ofIndex hget, hget]
    rfl

/-- At the place of an index stands the record of its command. -/
theorem commandAt_ofIndex (h : b.Holds cs) (hp : cs[p]? = some c) :
    b.commandAt (.ofIndex cs p) = .ok c := by
  have hlt := (List.getElem?_eq_some_iff.1 hp).1
  have hle := h.offset_add_le hp
  rw [commandAt, h.isEnd_ofIndex, if_neg (by simpa using hlt), if_neg (by omega),
    h.drop_ofIndex hp, decode_toBytes_append]

/-- Behind the last record stands nothing. -/
theorem commandAt_ofIndex_end (h : b.Holds cs) (hp : cs.length ≤ p) :
    b.commandAt (.ofIndex cs p) = .error .endOfStream := by
  rw [commandAt, h.isEnd_ofIndex, if_pos (decide_eq_true hp)]

/-- The bytes of the record at the cursor are those of its command. -/
theorem currentRecord?_eq (h : b.Holds cs) (hcursor : b.cursor = .ofIndex cs p) :
    b.currentRecord? = cs[p]?.map toBytes := by
  have hkind : b.currentKind = .ok (cs[p]?.map kind) := by
    rw [currentKind, hcursor, h.kindAt?_ofIndex]
  rw [currentRecord?, hkind]
  cases hp : cs[p]? with
  | none => rfl
  | some c =>
    have htake : (c.toBytes ++ encodeAll (cs.drop (p + 1))).take c.kind.recordLength = c.toBytes :=
      take_recordLength_eq_iff.2 ⟨_, rfl⟩
    simp only [Option.map_some, hcursor, h.drop_ofIndex hp, htake, length_toBytes, if_true]

/-! #### Changing the records -/

/-- Writing adds a command at the end. -/
theorem write (h : b.Holds cs) (c : Command) : (b.write c).Holds (cs ++ [c]) := by
  constructor
  · show b.bytes ++ c.toBytes = encodeAll (cs ++ [c])
    rw [h.bytes_eq, encodeAll_append, encodeAll_cons, encodeAll_nil, List.append_nil]
  · show b.count + 1 = (cs ++ [c]).length
    rw [h.count_eq, List.length_append, List.length_singleton]

/-- Writing moves the cursor to the end. -/
theorem cursor_write (h : b.Holds cs) (c : Command) :
    (b.write c).cursor = .ofIndex (cs ++ [c]) (cs ++ [c]).length :=
  (h.write c).endCursor_eq

/-- **Patching replaces one command.**  The bytes before and behind its record are not touched. -/
theorem overwrite (h : b.Holds cs) {old : Command} (hp : cs[p]? = some old)
    (hkind : old.kind = c.kind) :
    b.overwrite (.ofIndex cs p) c = .ok { b with bytes := encodeAll (cs.set p c) } := by
  have hle := h.offset_add_le hp
  have htag := kindAt_eq_ok_iff.1 (h.kindAt_ofIndex hp)
  have hbytes : writtenAt b.bytes (Cursor.ofIndex cs p).offset c.toBytes
      = encodeAll (cs.set p c) := by
    rw [h.bytes_eq, writtenAt, Cursor.offset_ofIndex, encodeAll_set hp, length_toBytes, hkind]
  rw [hkind] at hle htag
  rw [overwrite_of_tag htag, if_neg (Nat.not_lt.2 hle), hbytes]

end Holds

end RecordBuffer

end StyledText
