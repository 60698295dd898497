import StyledText.Proofs.RecordBuffer.Walk

/-!
# Streams as lists of commands

A stream **represents** a list of commands when its buffer holds them, its lines are counted, and
its cursor stands before the record of an index or at the end.  Then what reading and seeking answer
can be said in terms of the list and of the index alone, and they move the cursor to the place of
another index:

* `Represents.read_eq`, `Represents.readCommand_eq`, `Represents.peek_eq` — reading looks at the
  command of the index.
* `Represents.seek_eq`, `Represents.seekLine_eq`, `Represents.seekNextLine_eq` — seeking.
* `Represents.write` — writing adds a command at the end.
-/

namespace StyledText.Stream

open Command

variable {α : Type}

/-- The stream is made of the records of `cs`, with the cursor before one of them or at the end. -/
structure Represents (s : Stream α) (cs : List Command) : Prop where
  /-- The buffer holds the commands. -/
  holds : s.buffer.Holds cs
  lineCount_eq : s.lineCount = cs.countP fun c => c.kind = .lineInfo
  /-- The cursor is not beyond the end. -/
  position_le : s.position ≤ cs.length
  /-- The cursor is where a record starts. -/
  cursor_eq : s.buffer.cursor = .ofIndex cs s.position

namespace Represents

variable {s t : Stream α} {cs : List Command} {p : Nat}

/-- A new stream has no commands, whatever its settings. -/
theorem ofConfig (config : StreamConfig) : (Stream.ofConfig config : Stream α).Represents [] :=
  ⟨.empty, rfl, Nat.le_refl 0, rfl⟩

/-- Only the buffer and the number of lines matter. -/
theorem congr (h : s.Represents cs) (hbuffer : t.buffer = s.buffer)
    (hlines : t.lineCount = s.lineCount) : t.Represents cs := by
  refine ⟨?_, ?_, ?_, ?_⟩
  · rw [hbuffer]; exact h.holds
  · rw [hlines]; exact h.lineCount_eq
  · rw [position, hbuffer]; exact h.position_le
  · rw [position, hbuffer]; exact h.cursor_eq

/-- The cursor can stand before any record, and at the end. -/
theorem moveTo (h : s.Represents cs) (hp : p ≤ cs.length) :
    (s.moveTo (.ofIndex cs p)).Represents cs :=
  ⟨h.holds.moveTo _, h.lineCount_eq, hp, rfl⟩

/-- A stream whose cursor is moved to where it stands is not changed. -/
theorem moveTo_position (h : s.Represents cs) : s.moveTo (.ofIndex cs s.position) = s := by
  rw [← h.cursor_eq]
  rfl

theorem commandCount_eq (h : s.Represents cs) : s.commandCount = cs.length := h.holds.count_eq

theorem commands_eq (h : s.Represents cs) : s.commands = cs.map .ok := h.holds.commands_eq

/-! ### Writing -/

/-- Writing adds a command at the end. -/
theorem write (h : s.Represents cs) (c : Command) : (s.write c).Represents (cs ++ [c]) := by
  refine ⟨h.holds.write c, ?_, ?_, ?_⟩
  · show (if c.kind = .lineInfo then s.lineCount + 1 else s.lineCount) = _
    rw [List.countP_append, h.lineCount_eq]
    by_cases hkind : c.kind = .lineInfo
    · rw [if_pos hkind, List.countP_singleton, if_pos (decide_eq_true hkind)]
    · rw [if_neg hkind, List.countP_singleton, if_neg (by simpa using hkind), Nat.add_zero]
  · have hlength : s.buffer.count + 1 = (cs ++ [c]).length := by
      rw [h.holds.count_eq, List.length_append, List.length_singleton]
    exact Nat.le_of_eq hlength
  · rw [show (s.write c).position = (cs ++ [c]).length from (h.holds.write c).count_eq]
    exact h.holds.cursor_write c

/-! ### Reading -/

theorem currentKind_eq (h : s.Represents cs) : s.currentKind = .ok (cs[s.position]?.map kind) := by
  rw [currentKind, RecordBuffer.currentKind, h.cursor_eq, h.holds.kindAt?_ofIndex]

theorem peek_eq (h : s.Represents cs) :
    s.peek = match cs[s.position]? with
      | none => .error .endOfStream
      | some c => .ok c := by
  rw [peek, RecordBuffer.current, h.cursor_eq]
  cases hp : cs[s.position]? with
  | none => exact h.holds.commandAt_ofIndex_end (List.getElem?_eq_none_iff.1 hp)
  | some c => exact h.holds.commandAt_ofIndex hp

/-- Passing a command tells whether there is one, and adds one to the index if so. -/
theorem seekNextCommand_eq (h : s.Represents cs) :
    s.seekNextCommand =
      if s.position < cs.length then .ok (true, s.moveTo (.ofIndex cs (s.position + 1)))
      else .ok (false, s) := by
  rw [seekNextCommand, RecordBuffer.advance, h.cursor_eq, h.holds.next?_ofIndex]
  by_cases hp : s.position < cs.length
  · rw [if_pos hp, if_pos hp]
    rfl
  · rw [if_neg hp, if_neg hp]

/-- Reading gives the command of the index and passes it. -/
theorem readCommand_eq (h : s.Represents cs) :
    s.readCommand = match cs[s.position]? with
      | none => .error .endOfStream
      | some c => .ok (c, s.moveTo (.ofIndex cs (s.position + 1))) := by
  have hpeek := h.peek_eq
  rw [peek] at hpeek
  rw [readCommand, hpeek, RecordBuffer.advance, h.cursor_eq, h.holds.next?_ofIndex]
  cases hp : cs[s.position]? with
  | none => rfl
  | some c =>
    rw [if_pos (List.getElem?_eq_some_iff.1 hp).1]
    rfl

/-- Reading a command of a kind tests the kind before it moves. -/
theorem read_eq (h : s.Represents cs) (expected : Kind) :
    s.read expected = match cs[s.position]? with
      | none => .error .endOfStream
      | some c =>
        if c.kind = expected then .ok (c, s.moveTo (.ofIndex cs (s.position + 1)))
        else .error (.kindMismatch expected c.kind s.position) := by
  have hkind := h.currentKind_eq
  rw [currentKind] at hkind
  rw [read, hkind, h.readCommand_eq]
  cases hp : cs[s.position]? with
  | none => rfl
  | some c =>
    simp only [Option.map_some]
    by_cases hc : c.kind = expected
    · rw [if_pos hc, if_neg (not_not_intro hc)]
    · rw [if_neg hc, if_pos hc]

/-! ### Seeking -/

/-- **Seeking goes to the index sought**, from wherever the cursor stands. -/
theorem seek_eq (h : s.Represents cs) (index : Nat) :
    s.seek index =
      if cs.length < index then (.error (.indexOutOfRange index cs.length), s)
      else (.ok (cs[index]?.map kind), s.moveTo (.ofIndex cs index)) := by
  have hseek : s.buffer.seek index = s.buffer.follow
      (if cs.length < index then
        { place := .ofIndex cs s.position, fault := some (.indexOutOfRange index cs.length) }
      else { place := .ofIndex cs index }) := by
    rw [RecordBuffer.seek, h.cursor_eq, h.holds.seekFrom_ofIndex]
  by_cases hi : cs.length < index
  · rw [if_pos hi] at hseek
    rw [if_pos hi, seek, hseek]
    exact congrArg (Prod.mk _) h.moveTo_position
  · rw [if_neg hi] at hseek
    have hkind := (h.moveTo (Nat.le_of_not_lt hi)).currentKind_eq
    rw [if_neg hi, seek, hseek]
    exact congrArg (Prod.mk · _) hkind

/-- Seeking a line follows the chain of lines of the commands. -/
theorem seekLine_eq (h : s.Represents cs) (line : Nat) :
    s.seekLine line =
      if s.lineCount ≤ line then .error (.lineOutOfRange line s.lineCount)
      else (indexInLine cs line).map fun index => s.moveTo (.ofIndex cs index) := by
  rw [seekLine, h.holds.placeOfLine_ofIndex h.cursor_eq]
  by_cases hline : s.lineCount ≤ line
  · rw [if_pos hline, if_pos hline]
  · rw [if_neg hline, if_neg hline]
    cases indexInLine cs line <;> rfl

/-- The cursor goes to the next line over the line that it is at, or else command by command. -/
theorem seekNextLine_eq (h : s.Represents cs) :
    s.seekNextLine = match cs[s.position]? with
      | none => (.ok false, s)
      | some (.lineInfo info) =>
        let next := s.position + (1 + info.lengthInCommands.toNat)
        if cs.length < next then (.error (.indexOutOfRange next cs.length), s)
        else (.ok (next + 1 < cs.length), s.moveTo (.ofIndex cs next))
      | some _ =>
        let next := s.position + 1 +
          (cs.drop (s.position + 1)).findIdx fun c => c.kind == .lineInfo
        (.ok (next + 1 < cs.length), s.moveTo (.ofIndex cs next)) := by
  rw [seekNextLine, h.holds.walkToNextLine_ofIndex h.cursor_eq]
  cases hp : cs[s.position]? with
  | none => rfl
  | some c =>
    have hlanded (next : Nat) :
        (s.moveTo (.ofIndex cs next)).commandCount = cs.length := h.holds.count_eq
    cases c with
    | lineInfo info =>
      simp only [h.holds.skipFrom_ofIndex]
      by_cases hn : cs.length < s.position + (1 + info.lengthInCommands.toNat)
      · simp only [if_pos hn, h.moveTo_position]
      · simp only [if_neg hn, hlanded]
        rfl
    | _ =>
      simp only [hlanded]
      rfl

end Represents

end StyledText.Stream
