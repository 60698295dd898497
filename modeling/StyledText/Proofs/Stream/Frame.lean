import StyledText.Proofs.Stream.Atomic

/-!
# What operations on the records leave alone

Writing, lines, reading, seeking and replay are about the records of a stream.  Whatever the bytes
are and whatever marks are used, they touch **the buffer and the count of lines and nothing else**:
not the registries, not the settings, not the count of clearings.
-/

namespace StyledText

variable {α : Type}

/-- Whether an operation is about the records and nothing else. -/
def Operation.onlyRecords : Operation α → Bool
  | .changeSource _ | .register _ _ _ | .registerSource _ | .setSettings _ | .setParserOptions _
  | .setSourceText _ | .setMetrics _ | .clear => false
  | _ => true

namespace Stream

theorem frame_endLine (s : Stream α) (mark : LineMark) :
    (s.perform (.endLine mark)).2 = { s with buffer := (s.perform (.endLine mark)).2.buffer } := by
  rw [perform, endLine]
  by_cases hgeneration : mark.generation ≠ s.generation
  · rw [if_pos hgeneration]
    rfl
  · rw [if_neg hgeneration]
    by_cases hindex : s.buffer.count < mark.place.index + 1
    · rw [if_pos hindex]
      rfl
    · rw [if_neg hindex]
      dsimp only
      cases s.buffer.overwrite mark.place _ <;> rfl

theorem frame_seekLine (s : Stream α) (line : Nat) :
    (s.perform (.seekLine line)).2 =
      { s with buffer := (s.perform (.seekLine line)).2.buffer } := by
  rw [← performInPlace_eq, performInPlace]
  by_cases hline : s.lineCount ≤ line
  · rw [if_pos hline]
  · rw [if_neg hline]
    rfl

/-- **An operation on the records leaves all else alone**, on any stream and with any mark. -/
theorem perform_frame (s : Stream α) {operation : Operation α}
    (h : operation.onlyRecords = true) :
    (s.perform operation).2 = { s with
      buffer := (s.perform operation).2.buffer
      lineCount := (s.perform operation).2.lineCount } := by
  cases operation with
  | endLine mark => rw [frame_endLine]
  | seekLine line => rw [frame_seekLine]
  -- done step by step, these are seen to move the cursor of the buffer and to do nothing else
  | read | readCommand | seek | seekNextCommand | seekNextLine =>
    rw [← performInPlace_eq]
    rfl
  | changeSource | register | registerSource | setSettings | setParserOptions | setSourceText
  | setMetrics | clear => cases h
  | _ => rfl

end Stream

end StyledText
