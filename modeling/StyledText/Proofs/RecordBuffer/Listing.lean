import StyledText.Proofs.RecordBuffer.Layout
import StyledText.RecordBuffer.Operation

/-!
# Listing the commands of any bytes

A record can be written over any place of a buffer, and then the bytes need no longer be the records
of commands.  They can be listed all the same.  A `Listing` goes from one record to the next without
knowing how many there are, and **every byte is accounted for**: up to the first fault the bytes are
the records of the commands listed, one after another, and the fault is the one that decoding meets
there.

* `Listing.yields_iff` — the listing comes to its end, and what it gives is `Command.decodeAll`.
* `Command.exists_decodeAll_eq` — commands, and then a fault or the end of the bytes.
* `RecordBuffer.Sized.run` — what operations do to the number of bytes, damaged or not.
* `RecordBuffer.run_listing` — the listing of a buffer that operations leave.
-/

namespace StyledText

open Command

/-! ### From record to record -/

/-- The commands of some bytes in the middle of being listed. -/
structure Listing where
  bytes : List UInt8
  /-- The number of bytes that are done. -/
  offset : Nat := 0

namespace Listing

/-- The next command or fault, and the listing after it, which ends with a fault. -/
def next? (l : Listing) : Option (Except StreamError Command × Listing) :=
  if l.bytes.length ≤ l.offset then none
  else
    match decode (l.bytes.drop l.offset) with
    | .ok c => some (.ok c, { l with offset := l.offset + c.kind.recordLength })
    | .error e => some (.error e, { l with offset := l.bytes.length })

/-- The listing gives these one by one, and after that it gives nothing. -/
inductive Yields : Listing → List (Except StreamError Command) → Prop where
  | nil {l : Listing} (h : l.next? = none) : Yields l []
  | cons {l rest : Listing} {item : Except StreamError Command}
      {items : List (Except StreamError Command)} (h : l.next? = some (item, rest))
      (hrest : Yields rest items) : Yields l (item :: items)

variable {l : Listing} {items : List (Except StreamError Command)}

/-- At the end there is nothing. -/
theorem next?_of_le (h : l.bytes.length ≤ l.offset) : l.next? = none := if_pos h

/-- **Each step accounts for some bytes**: the listing yields what is decoded of those that are
left. -/
theorem yields_decodeAll (l : Listing) : l.Yields (decodeAll (l.bytes.drop l.offset)) := by
  -- the induction is on the number of bytes that are left
  generalize hleft : l.bytes.length - l.offset = left
  induction left using Nat.strongRecOn generalizing l with
  | ind left ih =>
    by_cases hend : l.bytes.length ≤ l.offset
    · rw [List.drop_of_length_le hend, decodeAll]
      exact .nil (next?_of_le hend)
    · have hbytes : l.bytes.drop l.offset ≠ [] := mt List.drop_eq_nil_iff.1 hend
      cases hdecode : decode (l.bytes.drop l.offset) with
      | ok c =>
        have hnext : l.next? = some (.ok c, { l with offset := l.offset + c.kind.recordLength }) := by
          rw [next?, if_neg hend, hdecode]
        have hpos := c.kind.recordLength_pos
        have hless : l.bytes.length - (l.offset + c.kind.recordLength) < left := by omega
        rw [decodeAll_of_decode hdecode, List.drop_drop]
        exact .cons hnext (ih _ hless { l with offset := l.offset + c.kind.recordLength } rfl)
      | error e =>
        have hnext : l.next? = some (.error e, { l with offset := l.bytes.length }) := by
          rw [next?, if_neg hend, hdecode]
        rw [decodeAll_of_fault hbytes hdecode]
        exact .cons hnext (.nil (next?_of_le (Nat.le_refl _)))

theorem Yields.unique {others : List (Except StreamError Command)} (h : l.Yields items)
    (hothers : l.Yields others) : items = others := by
  induction h generalizing others with
  | nil hnone =>
    cases hothers with
    | nil _ => rfl
    | cons hsome _ =>
      rw [hnone] at hsome
      cases hsome
  | cons hnext _ ih =>
    cases hothers with
    | nil hnone =>
      rw [hnone] at hnext
      cases hnext
    | cons hsome hrest =>
      rw [hnext] at hsome
      cases hsome
      rw [ih hrest]

/-- **A listing comes to its end**, and what it gives until then is told by the bytes. -/
theorem yields_iff : l.Yields items ↔ items = decodeAll (l.bytes.drop l.offset) := by
  constructor
  · intro h
    exact h.unique l.yields_decodeAll
  · intro h
    rw [h]
    exact l.yields_decodeAll

end Listing

namespace Command

/-! ### What any bytes are decoded to -/

/-- **Any bytes are the records of some commands and a rest.**  These commands are listed, and then
the fault that decoding meets at the rest, if there is a rest. -/
theorem exists_decodeAll_eq (bytes : List UInt8) :
    ∃ cs rest, bytes = encodeAll cs ++ rest ∧
      (rest = [] ∧ decodeAll bytes = cs.map .ok ∨
        ∃ e, rest ≠ [] ∧ decode rest = .error e ∧ decodeAll bytes = cs.map .ok ++ [.error e]) := by
  generalize hlength : bytes.length = n
  induction n using Nat.strongRecOn generalizing bytes with
  | ind n ih =>
    by_cases hbytes : bytes = []
    · subst hbytes
      exact ⟨[], [], rfl, .inl ⟨rfl, by rw [decodeAll]; rfl⟩⟩
    · cases hdecode : decode bytes with
      | error e => exact ⟨[], bytes, rfl, .inr ⟨e, hbytes, hdecode, decodeAll_of_fault hbytes hdecode⟩⟩
      | ok c =>
        obtain ⟨tail, rfl⟩ := decode_eq_ok_iff.1 hdecode
        have hfirst : decodeAll (c.toBytes ++ tail) = .ok c :: decodeAll tail := by
          rw [decodeAll_of_decode hdecode, ← length_toBytes, List.drop_left]
        rw [List.length_append, length_toBytes] at hlength
        have hpos := c.kind.recordLength_pos
        obtain ⟨cs, rest, htail, hwhere⟩ := ih tail.length (by omega) tail rfl
        refine ⟨c :: cs, rest, by rw [encodeAll_cons, List.append_assoc, ← htail], ?_⟩
        rw [hfirst]
        rcases hwhere with ⟨hrest, hall⟩ | ⟨e, hrest, he, hall⟩
        · exact .inl ⟨hrest, by rw [hall, List.map_cons]⟩
        · exact .inr ⟨e, hrest, he, by rw [hall, List.map_cons, List.cons_append]⟩

/-- Commands are no more than the bytes that their records take. -/
theorem length_le_recordsLength (cs : List Command) : cs.length ≤ recordsLength cs := by
  induction cs with
  | nil => exact Nat.le_refl 0
  | cons c cs ih =>
    have hpos := c.kind.recordLength_pos
    rw [List.length_cons, recordsLength_cons]
    omega

/-- There are no more commands and faults than bytes. -/
theorem length_decodeAll_le (bytes : List UInt8) : (decodeAll bytes).length ≤ bytes.length := by
  obtain ⟨cs, rest, hbytes, hwhere⟩ := exists_decodeAll_eq bytes
  have hcs := length_le_recordsLength cs
  have hlength : bytes.length = recordsLength cs + rest.length := by
    rw [hbytes, List.length_append, length_encodeAll]
  rcases hwhere with ⟨-, hall⟩ | ⟨e, hrest, -, hall⟩
  · rw [hall, List.length_map]
    omega
  · have hpos := List.length_pos_iff.2 hrest
    rw [hall, List.length_append, List.length_map, List.length_singleton]
    omega

end Command

namespace RecordBuffer

/-! ### The size of a buffer -/

/-- The commands after an operation, as far as it writes any. -/
def Operation.logged : Operation → List Command → List Command
  | .write c, cs => cs ++ [c]
  | .clear, _ => []
  | _, cs => cs

/-- The commands that operations write, after the last clearing. -/
def written (operations : List Operation) : List Command :=
  operations.foldl (fun cs operation => operation.logged cs) []

/-- The buffer has the size that it has with the records of some commands, whatever is in it. -/
structure Sized (b : RecordBuffer) (cs : List Command) : Prop where
  length_eq : b.bytes.length = recordsLength cs
  count_eq : b.count = cs.length

namespace Sized

variable {b : RecordBuffer} {cs : List Command}

theorem empty : RecordBuffer.empty.Sized [] := ⟨rfl, rfl⟩

/-- The cursor does not matter. -/
theorem moveTo (h : b.Sized cs) (place : Cursor) : (b.moveTo place).Sized cs :=
  ⟨h.length_eq, h.count_eq⟩

theorem write (h : b.Sized cs) (c : Command) : (b.write c).Sized (cs ++ [c]) := by
  constructor
  · show (b.bytes ++ c.toBytes).length = _
    rw [List.length_append, h.length_eq, length_toBytes, recordsLength_append, recordsLength_cons,
      recordsLength_nil, Nat.add_zero]
  · show b.count + 1 = _
    rw [h.count_eq, List.length_append, List.length_singleton]

/-- Writing a record over others, be it in the middle of one, keeps the size. -/
theorem perform_overwrite (h : b.Sized cs) (place : Cursor) (c : Command) :
    (b.perform (.overwrite place c)).2.Sized cs := by
  rw [RecordBuffer.perform]
  by_cases htag : b.bytes[place.offset]? = some c.kind.tag
  · rw [overwrite_of_tag htag]
    by_cases hroom : b.bytes.length < place.offset + c.kind.recordLength
    · rw [if_pos hroom]
      exact h
    · rw [if_neg hroom]
      refine ⟨Eq.trans ?_ h.length_eq, h.count_eq⟩
      exact length_writtenAt (by rw [length_toBytes]; omega)
  · obtain ⟨e, he, -⟩ := exists_overwrite_of_tag_ne htag
    rw [he]
    exact h

theorem perform_advance (h : b.Sized cs) : (b.perform .advance).2.Sized cs := by
  rw [RecordBuffer.perform, advance]
  cases b.next? b.cursor with
  | error e => exact h
  | ok next =>
    cases next with
    | none => exact h
    | some place => exact h.moveTo place

/-- **One operation keeps the size told by the commands logged.** -/
theorem perform (h : b.Sized cs) (operation : Operation) :
    (b.perform operation).2.Sized (operation.logged cs) := by
  cases operation with
  | write c => exact h.write c
  | overwrite place c => exact h.perform_overwrite place c
  | advance => exact h.perform_advance
  | clear => exact .empty
  | restore place => exact h.moveTo place
  | skip n => exact h.moveTo _
  | seek index => exact h.moveTo _
  | currentKind | current | currentRecord | commands => exact h

/-- **A run keeps it too.** -/
theorem run (h : b.Sized cs) (operations : List Operation) :
    (b.run operations).Sized (operations.foldl (fun cs operation => operation.logged cs) cs) := by
  induction operations generalizing b cs with
  | nil => exact h
  | cons operation operations ih => exact ih (h.perform operation)

end Sized

/-! ### Listing a buffer -/

/-- The listing of all that is in the buffer, wherever the cursor stands. -/
def listing (b : RecordBuffer) : Listing := { bytes := b.bytes }

/-- **What is in a buffer can be listed, whatever was written over it.**  The bytes are as many as
the records written take.  The listing ends after no more steps than there are bytes, and gives
commands, whose records are all the bytes there are, or the bytes up to a fault, which is then the
last and is what decoding meets there.  Listing changes neither the bytes nor the cursor. -/
theorem run_listing (operations : List Operation) :
    let b := empty.run operations
    b.bytes.length = recordsLength (written operations) ∧
      (∀ items, b.listing.Yields items ↔ items = b.commands) ∧
      b.commands.length ≤ b.bytes.length ∧
      b.perform .commands = (.commands b.commands, b) ∧
      ∃ cs rest, b.bytes = encodeAll cs ++ rest ∧
        (rest = [] ∧ b.commands = cs.map .ok ∨
          ∃ e, rest ≠ [] ∧ decode rest = .error e ∧ b.commands = cs.map .ok ++ [.error e]) := by
  intro b
  exact ⟨(Sized.empty.run operations).length_eq, fun _ => Listing.yields_iff,
    length_decodeAll_le b.bytes, rfl, exists_decodeAll_eq b.bytes⟩

end RecordBuffer

end StyledText
