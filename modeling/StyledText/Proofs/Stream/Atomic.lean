import StyledText.Proofs.RecordBuffer.InPlace
import StyledText.Proofs.Stream.Run

/-!
# Operations that fail

An operation that fails **changes nothing**: not the bytes, not the counts, not the cursor, and none
of the registries and settings.  Nothing is assumed of the lengths that the lines of the stream
tell, so a walk along them may break off anywhere.

The operations that move the cursor are looked at twice.  `Stream.perform` computes where they end;
`Stream.performInPlace` moves the cursor record by record and leaves it, on a fault, where the fault
was met, so that whatever is to be undone has to be undone there.

* `performInPlace_eq` — the two agree on every stream.
* `Represents.after_of_fault` — on a stream that represents commands a fault changes nothing.
* `Tracks.run_succeeded` — so the operations of a run that fail can be left out of it.
* `Reached.failed_unchanged` — one operation on a stream that a run leaves, done in either way.
-/

namespace StyledText.Stream

open Command

variable {α β : Type}

/-! ### Operations in place -/

/-- A move of the cursor, which touches nothing but the buffer. -/
def moving (s : Stream α) (f : β → Outcome α) (m : Move β) : Outcome α × Stream α :=
  (.ofExcept f (m.run s.buffer).1, { s with buffer := (m.run s.buffer).2 })

/-- Does one operation, and moves the cursor step by step if it moves the cursor. -/
def performInPlace (s : Stream α) : Operation α → Outcome α × Stream α
  | .read kind => s.moving .command (.read kind)
  | .readCommand => s.moving .command .readCommand
  | .seek index => s.moving .kind (.seekKind index)
  | .seekLine line =>
    if s.lineCount ≤ line then (.fault (.lineOutOfRange line s.lineCount), s)
    else s.moving (fun _ => .done) (Move.walkToLine line).orBack
  | .seekNextCommand => s.moving .truth .advance
  | .seekNextLine => s.moving .truth .seekNextLine
  | operation => s.perform operation

theorem moving_readCommand (s : Stream α) :
    s.moving .command .readCommand = s.orUnchanged .command s.readCommand := by
  rw [moving, Move.readCommand_eq, readCommand]
  cases s.buffer.current with
  | error e => rfl
  | ok c =>
    dsimp only
    cases s.buffer.advance <;> rfl

theorem moving_read (s : Stream α) (expected : Kind) :
    s.moving .command (.read expected) = s.orUnchanged .command (s.read expected) := by
  rw [moving, Move.read_eq, read]
  cases s.buffer.currentKind with
  | error e => rfl
  | ok kind =>
    cases kind with
    | none => rfl
    | some found =>
      dsimp only
      by_cases hfound : found ≠ expected
      · rw [if_pos hfound, if_pos hfound]
        rfl
      · rw [if_neg hfound, if_neg hfound]
        exact moving_readCommand s

theorem moving_seek (s : Stream α) (index : Nat) :
    s.moving .kind (.seekKind index) =
      (.ofExcept .kind (s.seek index).1, (s.seek index).2) := by
  rw [moving, Move.seekKind, Move.run_bind, Move.seek_eq, seek, RecordBuffer.seek,
    RecordBuffer.follow, Walk.settle, Walk.toExcept]
  cases (s.buffer.seekFrom s.buffer.cursor index).fault <;> rfl

theorem moving_seekLine (s : Stream α) (line : Nat) :
    (if s.lineCount ≤ line then (.fault (.lineOutOfRange line s.lineCount), s)
      else s.moving (fun _ => .done) (Move.walkToLine line).orBack) =
      s.orUnchanged (fun _ => .done) ((s.seekLine line).map ((), ·)) := by
  rw [seekLine, moving, Move.orBack_walkToLine]
  by_cases hline : s.lineCount ≤ line
  · rw [if_pos hline, if_pos hline]
    rfl
  · rw [if_neg hline, if_neg hline]
    cases s.buffer.placeOfLine line <;> rfl

theorem moving_seekNextCommand (s : Stream α) :
    s.moving .truth .advance = s.orUnchanged .truth s.seekNextCommand := by
  rw [moving, Move.advance_eq, seekNextCommand, RecordBuffer.advance]
  cases s.buffer.next? s.buffer.cursor with
  | error e => rfl
  | ok next => cases next <;> rfl

theorem moving_seekNextLine (s : Stream α) :
    s.moving .truth .seekNextLine =
      (.ofExcept .truth s.seekNextLine.1, s.seekNextLine.2) := by
  rw [moving, Move.seekNextLine_eq, seekNextLine]
  cases s.buffer.walkToNextLine with
  | error e => rfl
  | ok walk =>
    cases walk with
    | none => rfl
    | some w =>
      dsimp only
      cases w.fault <;> rfl

/-- **Moving step by step comes to the same**, on any bytes. -/
theorem performInPlace_eq (s : Stream α) (operation : Operation α) :
    s.performInPlace operation = s.perform operation := by
  cases operation with
  | read expected => exact moving_read s expected
  | readCommand => exact moving_readCommand s
  | seek index => exact moving_seek s index
  | seekLine line => exact moving_seekLine s line
  | seekNextCommand => exact moving_seekNextCommand s
  | seekNextLine => exact moving_seekNextLine s
  | _ => rfl

/-! ### One operation -/

/-- Where the stream is kept on a fault, only success can change it. -/
theorem orUnchanged_of_fault {s : Stream α} {f : β → Outcome α}
    (hf : ∀ value, (f value).faults = []) {result : Except StreamError (β × Stream α)}
    (hfault : (s.orUnchanged f result).1.faults ≠ []) : (s.orUnchanged f result).2 = s := by
  cases result with
  | error e => rfl
  | ok after => exact absurd (hf after.1) hfault

/-- **An operation that tells of a fault leaves the stream as it was.**  Seeking an index and going
to the next line move the cursor before all is known to be well, and on records that were written
they do not fail after that. -/
theorem Represents.after_of_fault {s : Stream α} {cs : List Command} (h : s.Represents cs)
    {operation : Operation α} (hfault : (s.perform operation).1.faults ≠ []) :
    (s.perform operation).2 = s := by
  cases operation with
  | endLine mark => exact orUnchanged_of_fault (fun _ => rfl) hfault
  | read expected => exact orUnchanged_of_fault (fun _ => rfl) hfault
  | readCommand => exact orUnchanged_of_fault (fun _ => rfl) hfault
  | seekLine line => exact orUnchanged_of_fault (fun _ => rfl) hfault
  | seekNextCommand => exact orUnchanged_of_fault (fun _ => rfl) hfault
  | seek index =>
    rw [perform, h.seek_eq] at hfault ⊢
    by_cases hi : cs.length < index
    · rw [if_pos hi]
    · rw [if_neg hi] at hfault
      exact absurd rfl hfault
  | seekNextLine =>
    rw [perform, h.seekNextLine_eq] at hfault ⊢
    cases hp : cs[s.position]? with
    | none => rfl
    | some c =>
      rw [hp] at hfault
      cases c with
      | lineInfo info =>
        dsimp only at hfault ⊢
        by_cases hn : cs.length < s.position + (1 + info.lengthInCommands.toNat)
        · rw [if_pos hn]
        · rw [if_neg hn] at hfault
          exact absurd rfl hfault
      | _ => exact absurd rfl hfault
  | peek | currentKind | commands | replay store | resource kind index | resourceNamed kind name
  | source index => rfl
  | _ => exact absurd rfl hfault

/-! ### Whole runs -/

/-- The operations of a run that tell of no fault. -/
def succeeded (s : Stream α) : List (Operation α) → List (Operation α)
  | [] => []
  | operation :: operations =>
    let rest := (s.perform operation).2.succeeded operations
    if (s.perform operation).1.faults.isEmpty then operation :: rest else rest

/-- **The operations of a run that fail can be left out of it.** -/
theorem Tracks.run_succeeded {s : Stream α} {cs : List Command} {marks : List LineMark}
    (h : s.Tracks cs marks) {operations : List (Operation α)}
    (huse : s.UsesOwnMarks marks operations) :
    (s.run (s.succeeded operations)).2 = (s.run operations).2 := by
  induction operations generalizing s cs marks with
  | nil => rfl
  | cons operation operations ih =>
    obtain ⟨hfirst, hrest⟩ := huse
    have hafter := ih (h.perform hfirst).tracks hrest
    show (s.run (s.succeeded (operation :: operations))).2 =
      ((s.perform operation).2.run operations).2
    by_cases hfault : (s.perform operation).1.faults = []
    · rw [succeeded, if_pos (List.isEmpty_iff.2 hfault)]
      exact hafter
    · have hsame := h.represents.after_of_fault hfault
      rw [succeeded, if_neg (mt List.isEmpty_iff.1 hfault)]
      rw [hsame] at hafter ⊢
      exact hafter

/-! ### Streams that runs leave -/

/-- **Operations that fail change nothing.**  Whatever lengths the lines of the stream tell,
whatever mark a line is ended with, and be the cursor moved at once or record by record: an
operation that tells of a fault leaves the whole stream as it was. -/
theorem Reached.failed_unchanged {s : Stream α} {cs : List Command} (h : s.Reached cs)
    (operation : Operation α) :
    s.performInPlace operation = s.perform operation ∧
      ((s.perform operation).1.faults ≠ [] → (s.perform operation).2 = s) :=
  ⟨performInPlace_eq s operation, h.represents.after_of_fault⟩

/-- The second line tells of more commands than there are.  The way to the third line passes the
first one and breaks off, and the cursor is back where it was. -/
theorem Reached.failed_unchanged_midway :
    let operations : List (Operation Unit) :=
      [.write (.blockInfo {}), .write (.lineInfo { lengthInCommands := 1 }), .write .toggleBold,
        .write (.lineInfo { lengthInCommands := 5 }), .write (.lineInfo {}), .seek 2]
    let s := ((ofConfig {}).run operations).2
    ((Move.walkToLine 2).run s.buffer).2.cursor.index = 3 ∧
      s.perform (.seekLine 2) = (.fault (.indexOutOfRange 9 5), s) := by
  intro operations s
  have hreached : s.Reached _ := ⟨{}, operations, by decide, rfl, rfl⟩
  have hfault : (s.perform (.seekLine 2)).1 = .fault (.indexOutOfRange 9 5) := by rfl
  have hsame := (hreached.failed_unchanged (.seekLine 2)).2
    (by rw [hfault]; exact List.cons_ne_nil _ _)
  exact ⟨by rfl, Prod.ext hfault hsame⟩

end StyledText.Stream
