import StyledText.Proofs.Command.RecordGrammar
import StyledText.Proofs.RecordBuffer.InPlace
import StyledText.Proofs.RecordBuffer.Listing

/-!
# Places outside the bytes

The cursor of a buffer, and the place that is written over, need not be where a record stands: they
can be beyond the bytes, or so near to their end that the record there is cut short.  Looking at a
tag, passing a record and taking its bytes tell of that as a fault, or answer that there is nothing.
Two operations **reach beyond the bytes** instead of telling of it:

* reading a command, where the cursor is beyond the end of the bytes, though by its number a record
  should follow;
* writing over a record of the right kind that is cut short.

That is all: `perform_outOfBounds_iff`.  Everywhere else what is missing is told of as an early end.

* `Short.decode_drop`, `current_of_currentKind`, `currentRecord?_of_short`, `overwrite_of_beyond`,
  `overwrite_of_other` — what is told where a record is missing or cut short.
* `run_outOfBounds_iff` — all of this for the buffers that operations leave, and
  `current_outOfBounds_after_clear` — a cursor restored after a clearing, and a record cut short.
-/

namespace StyledText.RecordBuffer

open Command

/-- The faults that an outcome tells of. -/
def Outcome.faults : Outcome → List StreamError
  | .fault e => [e]
  | .commands cs => cs.filterMap fun
    | .ok _ => none
    | .error e => some e
  | _ => []

/-- The place is beyond the bytes, or the record that its tag promises is cut short. -/
def Short (b : RecordBuffer) (place : Cursor) : Prop :=
  b.bytes.length ≤ place.offset ∨
    ∃ kind : Kind, b.bytes[place.offset]? = some kind.tag ∧
      b.bytes.length < place.offset + kind.recordLength

/-- The operation reaches beyond the bytes. -/
def Overreaches (b : RecordBuffer) : Operation → Prop
  | .current => b.cursor.index < b.count ∧ b.bytes.length < b.cursor.offset
  | .overwrite place c =>
    b.bytes[place.offset]? = some c.kind.tag ∧
      b.bytes.length < place.offset + c.kind.recordLength
  | _ => False

variable {b : RecordBuffer} {place : Cursor} {c : Command} {e : StreamError}

/-! ### Reaching beyond the bytes -/

theorem decode_ne_outOfBounds (bytes : List UInt8) : decode bytes ≠ .error .outOfBounds := by
  intro h
  rcases decode_cases bytes with ⟨c, hc⟩ | ⟨tag, htag⟩ | hend
  · rw [hc] at h
    cases h
  · rw [htag] at h
    cases h
  · rw [hend] at h
    cases h

theorem kindAt?_ne_outOfBounds (b : RecordBuffer) (place : Cursor) :
    b.kindAt? place ≠ .error .outOfBounds := by
  intro h
  rw [kindAt?] at h
  split at h
  · cases h
  · cases hkind : b.kindAt place with
    | ok kind =>
      rw [hkind] at h
      cases h
    | error e =>
      rw [hkind] at h
      cases h
      exact kindAt_ne_outOfBounds hkind

/-- A walk looks at tags only. -/
theorem walk_fault_ne_outOfBounds (b : RecordBuffer) (n : Nat) (place : Cursor) :
    (b.walk n place).fault ≠ some .outOfBounds := by
  induction n generalizing place with
  | zero => exact nofun
  | succ n ih =>
    rw [walk]
    cases hkind : b.kindAt place with
    | error e =>
      intro h
      exact kindAt_ne_outOfBounds (hkind.trans (congrArg Except.error (Option.some.inj h)))
    | ok kind => exact ih (place.past kind)

theorem skipFrom_fault_ne_outOfBounds (b : RecordBuffer) (place : Cursor) (n : Nat) :
    (b.skipFrom place n).fault ≠ some .outOfBounds := by
  rw [skipFrom]
  split
  · simp
  · exact b.walk_fault_ne_outOfBounds n place

theorem seekFrom_fault_ne_outOfBounds (b : RecordBuffer) (place : Cursor) (index : Nat) :
    (b.seekFrom place index).fault ≠ some .outOfBounds := by
  rw [seekFrom]
  split
  · simp
  · exact b.skipFrom_fault_ne_outOfBounds _ _

theorem Outcome.outOfBounds_mem_ofFault {fault : Option StreamError} :
    .outOfBounds ∈ (Outcome.ofFault fault).faults ↔ fault = some .outOfBounds := by
  cases fault with
  | none => exact ⟨nofun, nofun⟩
  | some e => exact List.mem_singleton.trans ⟨fun h => h ▸ rfl, fun h => (Option.some.inj h).symm⟩

/-- Passing a record looks at its tag only. -/
theorem advance_ne_outOfBounds (b : RecordBuffer) : b.advance ≠ .error .outOfBounds := by
  intro h
  rw [advance, next?] at h
  cases hkind : b.kindAt? b.cursor with
  | error e =>
    rw [hkind] at h
    cases h
    exact b.kindAt?_ne_outOfBounds b.cursor hkind
  | ok kind =>
    rw [hkind] at h
    cases kind <;> cases h

/-- A fault that is listed was met by decoding. -/
theorem exists_decode_of_mem {bytes : List UInt8} (h : .error e ∈ decodeAll bytes) :
    ∃ rest, decode rest = .error e := by
  have hok (cs : List Command) : .error e ∉ cs.map (.ok : Command → Except StreamError Command) := by
    intro hmem
    obtain ⟨c, -, hc⟩ := List.mem_map.1 hmem
    cases hc
  obtain ⟨cs, rest, -, ⟨-, hall⟩ | ⟨e', -, he, hall⟩⟩ := exists_decodeAll_eq bytes
  · rw [hall] at h
    exact absurd h (hok cs)
  · rw [hall] at h
    have hlast := List.mem_singleton.1 ((List.mem_append.1 h).resolve_left (hok cs))
    cases hlast
    exact ⟨rest, he⟩

theorem outOfBounds_notMem_commands (b : RecordBuffer) :
    .outOfBounds ∉ (Outcome.commands b.commands).faults := by
  intro h
  obtain ⟨item, hitem, hfault⟩ := List.mem_filterMap.1 h
  cases item with
  | ok c => cases hfault
  | error e =>
    cases hfault
    obtain ⟨rest, hrest⟩ := exists_decode_of_mem hitem
    exact decode_ne_outOfBounds rest hrest

/-- Reading a command takes the bytes from the cursor on, of which there are none from a place beyond
the bytes on. -/
theorem current_eq_outOfBounds_iff :
    b.current = .error .outOfBounds ↔ b.Overreaches .current := by
  rw [current, commandAt]
  by_cases hend : b.isEnd b.cursor = true
  · have hle : b.count ≤ b.cursor.index := of_decide_eq_true hend
    rw [if_pos hend]
    exact iff_of_false (by simp) fun h => Nat.not_le.2 h.1 hle
  · have hlt : b.cursor.index < b.count := Nat.not_le.1 (mt decide_eq_true hend)
    rw [if_neg hend]
    by_cases hbeyond : b.bytes.length < b.cursor.offset
    · rw [if_pos hbeyond]
      exact iff_of_true rfl ⟨hlt, hbeyond⟩
    · rw [if_neg hbeyond]
      exact iff_of_false (decode_ne_outOfBounds _) fun h => hbeyond h.2

theorem overwrite_eq_outOfBounds_iff :
    b.overwrite place c = .error .outOfBounds ↔ b.Overreaches (.overwrite place c) := by
  by_cases htag : b.bytes[place.offset]? = some c.kind.tag
  · rw [overwrite_of_tag htag]
    by_cases hshort : b.bytes.length < place.offset + c.kind.recordLength
    · rw [if_pos hshort]
      exact iff_of_true rfl ⟨htag, hshort⟩
    · rw [if_neg hshort]
      exact iff_of_false nofun fun h => hshort h.2
  · obtain ⟨e, he, hne⟩ := exists_overwrite_of_tag_ne htag
    rw [he]
    exact iff_of_false (fun h => hne (Except.error.inj h)) fun h => htag h.1

/-- An outcome that tells of the faults of something tells of no others. -/
theorem Outcome.mem_faults_ofExcept {β : Type} {f : β → Outcome} (hf : ∀ value, (f value).faults = [])
    {x : Except StreamError β} : e ∈ (Outcome.ofExcept f x).faults ↔ x = .error e := by
  cases x with
  | ok value =>
    have hnone : (Outcome.ofExcept f (.ok value)).faults = [] := hf value
    rw [hnone]
    exact ⟨nofun, nofun⟩
  | error e' => exact List.mem_singleton.trans ⟨fun h => h ▸ rfl, fun h => (Except.error.inj h).symm⟩

/-- **Only reading and writing over reach beyond the bytes**, each where it is told. -/
theorem perform_outOfBounds_iff (b : RecordBuffer) (operation : Operation) :
    .outOfBounds ∈ (b.perform operation).1.faults ↔ b.Overreaches operation := by
  cases operation with
  | overwrite place c =>
    rw [← overwrite_eq_outOfBounds_iff, perform]
    cases b.overwrite place c with
    | ok after => exact iff_of_false List.not_mem_nil (by simp)
    | error e => exact Outcome.mem_faults_ofExcept (f := fun _ => .done) (x := .error e) fun _ => rfl
  | current => exact (Outcome.mem_faults_ofExcept fun _ => rfl).trans current_eq_outOfBounds_iff
  | advance =>
    refine iff_of_false ?_ id
    rw [perform]
    cases hadvance : b.advance with
    | ok moved => exact List.not_mem_nil
    | error e =>
      intro h
      obtain rfl := List.mem_singleton.1 h
      exact b.advance_ne_outOfBounds hadvance
  | skip n =>
    exact iff_of_false (mt Outcome.outOfBounds_mem_ofFault.1 (b.skipFrom_fault_ne_outOfBounds _ _)) id
  | seek index =>
    exact iff_of_false (mt Outcome.outOfBounds_mem_ofFault.1 (b.seekFrom_fault_ne_outOfBounds _ _)) id
  | currentKind =>
    exact iff_of_false
      (mt (Outcome.mem_faults_ofExcept fun _ => rfl).1 (b.kindAt?_ne_outOfBounds b.cursor)) id
  | commands => exact iff_of_false b.outOfBounds_notMem_commands id
  | write | restore | currentRecord | clear => exact iff_of_false List.not_mem_nil id

/-! ### Telling of an early end -/

/-- A tag that cannot be told keeps a command from being decoded, for the same reason. -/
theorem decode_drop_of_kindAt (h : b.kindAt place = .error e) :
    decode (b.bytes.drop place.offset) = .error e := by
  rw [kindAt] at h
  cases hget : b.bytes[place.offset]? with
  | none =>
    rw [hget] at h
    cases h
    rw [List.drop_of_length_le (List.getElem?_eq_none_iff.1 hget)]
    rfl
  | some tag =>
    obtain ⟨hlt, rfl⟩ := List.getElem?_eq_some_iff.1 hget
    rw [List.drop_eq_getElem_cons hlt, decode]
    simp only [hget] at h
    cases hkind : Kind.ofTag? b.bytes[place.offset] with
    | none =>
      simp only [hkind] at h
      cases h
      rfl
    | some kind =>
      simp only [hkind] at h
      cases h

/-- No command is decoded where the record is cut short. -/
theorem Short.decode_drop (h : b.Short place) :
    decode (b.bytes.drop place.offset) = .error .unexpectedEnd := by
  rcases h with hbeyond | ⟨kind, htag, hshort⟩
  · rw [List.drop_of_length_le hbeyond]
    rfl
  · rw [decode_eq_unexpectedEnd_iff, List.head?_drop, htag, List.length_drop]
    constructor
    · intro h
      obtain ⟨found, hfound, hlength⟩ := h
      obtain rfl := Kind.tag_injective (Option.some.inj hfound)
      have hpos := kind.recordLength_pos
      omega
    · intro h
      obtain ⟨tag, hfound, hno⟩ := h
      exact hno kind (Option.some.inj hfound)

/-- Reading a command within the bytes is decoding what follows the cursor. -/
theorem current_eq_decode (hindex : b.cursor.index < b.count)
    (hover : ¬b.Overreaches .current) : b.current = decode (b.bytes.drop b.cursor.offset) := by
  have hend : ¬b.isEnd b.cursor = true := fun hend => Nat.not_le.2 hindex (of_decide_eq_true hend)
  rw [current, commandAt, if_neg hend, if_neg fun hbeyond => hover ⟨hindex, hbeyond⟩]

/-- Where there is no kind, there is no command for the same reason. -/
theorem current_of_currentKind (hover : ¬b.Overreaches .current) (h : b.currentKind = .error e) :
    b.current = .error e := by
  rcases Nat.lt_or_ge b.cursor.index b.count with hindex | hindex
  · rw [currentKind_of_lt hindex] at h
    rw [current_eq_decode hindex hover]
    cases hkind : b.kindAt b.cursor with
    | ok kind =>
      rw [hkind] at h
      cases h
    | error e' =>
      rw [hkind] at h
      cases h
      exact decode_drop_of_kindAt hkind
  · rw [currentKind_of_le hindex] at h
    cases h

theorem kindAt_of_currentKind {kind : Kind} (h : b.currentKind = .ok (some kind)) :
    b.kindAt b.cursor = .ok kind := by
  rw [currentKind_of_lt (lt_of_currentKind h)] at h
  cases hkind : b.kindAt b.cursor with
  | ok found =>
    rw [hkind] at h
    cases h
    rfl
  | error e =>
    rw [hkind] at h
    cases h

/-- A record that is cut short has no bytes of its own. -/
theorem currentRecord?_of_short (h : b.Short b.cursor) : b.currentRecord? = none := by
  rw [currentRecord?]
  cases hkind : b.currentKind with
  | error e => rfl
  | ok kind =>
    cases kind with
    | none => rfl
    | some kind =>
      have htag := kindAt_eq_ok_iff.1 (kindAt_of_currentKind hkind)
      have hlength : ¬((b.bytes.drop b.cursor.offset).take kind.recordLength).length =
          kind.recordLength := by
        rw [List.length_take, List.length_drop]
        have hpos := kind.recordLength_pos
        rcases h with hbeyond | ⟨found, hfound, hshort⟩
        · omega
        · rw [hfound] at htag
          obtain rfl := Kind.tag_injective (Option.some.inj htag)
          omega
      exact if_neg hlength

/-- Nothing is written over beyond the bytes. -/
theorem overwrite_of_beyond (h : b.bytes.length ≤ place.offset) :
    b.overwrite place c = .error .unexpectedEnd := by
  rw [overwrite, kindAt, List.getElem?_eq_none h]

/-- Nothing is written over a record of another kind. -/
theorem overwrite_of_other {found : Kind} (h : b.bytes[place.offset]? = some found.tag)
    (hfound : found ≠ c.kind) :
    b.overwrite place c = .error (.kindMismatch c.kind found place.index) := by
  rw [overwrite, kindAt_eq_ok_iff.2 h]
  exact if_pos hfound

/-! ### Buffers that operations leave -/

/-- **Of what can be done to a buffer, only two operations ever reach beyond the bytes**: reading a
command where the cursor is beyond them though a record should follow, and writing over a record of
the same kind that is cut short.  Where reading does not, it gives the same fault as looking at the
kind, and tells of an early end where a record is cut short; the bytes of such a record are never
given; and writing over it is refused, for its kind, unless it reaches beyond the bytes.

Skips are of any number of records; `skipFrom` tells what that means past the last machine word. -/
theorem run_outOfBounds_iff (operations : List Operation) :
    let b := empty.run operations
    (∀ operation, .outOfBounds ∈ (b.perform operation).1.faults ↔ b.Overreaches operation) ∧
      (¬b.Overreaches .current →
        (∀ e, b.currentKind = .error e → b.current = .error e) ∧
        (b.cursor.index < b.count → b.Short b.cursor → b.current = .error .unexpectedEnd)) ∧
      (b.Short b.cursor → b.currentRecord? = none) ∧
      ∀ place c,
        (b.bytes.length ≤ place.offset → b.overwrite place c = .error .unexpectedEnd) ∧
        (∀ found : Kind, b.bytes[place.offset]? = some found.tag → found ≠ c.kind →
          b.overwrite place c = .error (.kindMismatch c.kind found place.index)) := by
  intro b
  refine ⟨b.perform_outOfBounds_iff, fun hover => ⟨?_, ?_⟩, currentRecord?_of_short, ?_⟩
  · intro e
    exact current_of_currentKind hover
  · intro hindex hshort
    rw [current_eq_decode hindex hover, hshort.decode_drop]
  · intro place c
    exact ⟨overwrite_of_beyond, fun found => overwrite_of_other⟩

/-- The second byte of a record is the tag of a text, which is cut short: there is no command and
there are no bytes of one.  The third byte is no tag, and reading refuses it as looking does.
Nothing is written over behind the last byte, nor over the record by one of another kind. -/
theorem run_outOfBounds_iff_inside :
    let b := empty.run [.write (.pushStyle 3), .restore ⟨0, 1⟩]
    let d := empty.run [.write (.pushStyle 3), .restore ⟨0, 2⟩]
    (¬b.Overreaches .current ∧ b.cursor.index < b.count ∧ b.Short b.cursor ∧
        b.current = .error .unexpectedEnd ∧ b.currentRecord? = none) ∧
      (¬d.Overreaches .current ∧ d.currentKind = .error (.invalidCommand 0) ∧
        d.current = .error (.invalidCommand 0)) ∧
      b.overwrite ⟨1, 5⟩ (.text {}) = .error .unexpectedEnd ∧
      b.overwrite ⟨0, 0⟩ (.text {}) = .error (.kindMismatch .text .pushStyle 0) := by
  intro b d
  have hb : ¬b.Overreaches .current := fun h => absurd h.2 (by decide)
  have hd : ¬d.Overreaches .current := fun h => absurd h.2 (by decide)
  have hindex : b.cursor.index < b.count := by decide
  have hshort : b.Short b.cursor := .inr ⟨.text, by decide, by decide⟩
  have hkind : d.currentKind = .error (.invalidCommand 0) := rfl
  obtain ⟨-, hread, hrecord, hover⟩ :=
    run_outOfBounds_iff [.write (.pushStyle 3), .restore ⟨0, 1⟩]
  refine ⟨⟨hb, hindex, hshort, (hread hb).2 hindex hshort, hrecord hshort⟩, ⟨hd, hkind, ?_⟩, ?_, ?_⟩
  · exact ((run_outOfBounds_iff [.write (.pushStyle 3), .restore ⟨0, 2⟩]).2.1 hd).1 _ hkind
  · exact (hover ⟨1, 5⟩ (.text {})).1 (by decide)
  · exact (hover ⟨0, 0⟩ (.text {})).2 .pushStyle (by decide) (by decide)

/-- The cursor is restored to a place that it had before a clearing.  A record is expected there by
its number, and looking at its kind tells of an early end, but reading it reaches beyond the bytes.
So does writing over a record that begins in the middle of another one and is cut short. -/
theorem current_outOfBounds_after_clear :
    let saved := (empty.run [.write (.text {})]).cursor
    let b := empty.run
      [.write (.text {}), .clear, .write .toggleBold, .write .toggleBold, .restore saved]
    let d := empty.run [.write (.pushStyle 3)]
    b.Short b.cursor ∧ b.currentKind = .error .unexpectedEnd ∧ b.current = .error .outOfBounds ∧
      d.Short ⟨0, 1⟩ ∧ d.overwrite ⟨0, 1⟩ (.text {}) = .error .outOfBounds := by
  intro saved b d
  exact ⟨.inl (by decide), rfl, rfl, .inr ⟨.text, by decide, by decide⟩, rfl⟩

end StyledText.RecordBuffer
