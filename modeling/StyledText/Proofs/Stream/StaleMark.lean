import StyledText.Proofs.Stream.Frame

/-!
# Marks from before a clearing

A stream counts how often it was cleared, and a mark carries the count of the time when it was
handed out.  No operation but clearing touches the count, so over a run **the count grows by the
clearings in it**, whatever else was done and whatever marks were used.  A mark is therefore too old
exactly when the stream was cleared since, even if the same records stand at its place again.

* `generation_perform`, `generation_run` — the count after one operation, and after a run.
* `endLine_stale_iff_cleared` — when a mark is refused as too old.
-/

namespace StyledText

variable {α : Type}

/-- Whether an operation clears the stream. -/
def Operation.isClear : Operation α → Bool
  | .clear => true
  | _ => false

theorem Operation.isClear_iff {operation : Operation α} :
    operation.isClear = true ↔ operation = .clear := by
  cases operation <;> simp [isClear]

/-- How often operations clear the stream. -/
def clearings (operations : List (Operation α)) : Nat := operations.countP Operation.isClear

theorem clearings_append (first second : List (Operation α)) :
    clearings (first ++ second) = clearings first + clearings second := List.countP_append

theorem clearings_pos_iff {operations : List (Operation α)} :
    0 < clearings operations ↔ .clear ∈ operations := by
  rw [clearings, List.countP_pos_iff]
  constructor
  · intro h
    obtain ⟨operation, hmem, hclear⟩ := h
    rw [← Operation.isClear_iff.1 hclear]
    exact hmem
  · intro h
    exact ⟨.clear, h, rfl⟩

/-- A buffer is patched, or refuses for a reason of its own. -/
theorem RecordBuffer.overwrite_ne_staleLineMark (b : RecordBuffer) (place : Cursor) (c : Command)
    (index : Nat) : b.overwrite place c ≠ .error (.staleLineMark index) := by
  intro h
  rw [overwrite, kindAt] at h
  cases hbyte : b.bytes[place.offset]? with
  | none =>
    rw [hbyte] at h
    cases h
  | some tag =>
    rw [hbyte] at h
    cases hkind : Command.Kind.ofTag? tag with
    | none =>
      simp only [hkind] at h
      cases h
    | some found =>
      simp only [hkind] at h
      split at h
      · cases h
      · split at h <;> cases h

namespace Stream

variable {s : Stream α} {mark : LineMark}

/-! ### The count of clearings -/

/-- **Nothing but clearing touches the count**, on any stream and with any mark. -/
theorem generation_perform (s : Stream α) (operation : Operation α) :
    (s.perform operation).2.generation = s.generation + clearings [operation] := by
  have hframe (h : operation.onlyRecords = true) :
      (s.perform operation).2.generation = s.generation := by
    rw [s.perform_frame h]
  cases operation with
  | changeSource | register | registerSource | setSettings | setParserOptions | setSourceText
  | setMetrics | clear => rfl
  | _ => exact hframe rfl

/-- **A run adds its clearings to the count.** -/
theorem generation_run (s : Stream α) (operations : List (Operation α)) :
    (s.run operations).2.generation = s.generation + clearings operations := by
  induction operations generalizing s with
  | nil => rfl
  | cons operation operations ih =>
    show ((s.perform operation).2.run operations).2.generation = _
    rw [ih, generation_perform, Nat.add_assoc, ← clearings_append, List.singleton_append]

/-! ### Marks that are too old -/

/-- A mark of another count is refused before anything else is looked at. -/
theorem perform_endLine_of_ne (h : mark.generation ≠ s.generation) :
    s.perform (.endLine mark) = (.fault (.staleLineMark mark.place.index), s) := by
  rw [perform, endLine, if_pos h]
  rfl

/-- A mark of the present count can be refused, but not as too old. -/
theorem perform_endLine_ne_stale (h : mark.generation = s.generation) (index : Nat) :
    (s.perform (.endLine mark)).1 ≠ .fault (.staleLineMark index) := by
  rw [perform, endLine, if_neg (not_not_intro h)]
  by_cases hindex : s.buffer.count < mark.place.index + 1
  · rw [if_pos hindex]
    intro hfault
    cases hfault
  · rw [if_neg hindex]
    dsimp only
    split
    · rename_i e hover
      intro hfault
      cases hfault
      exact RecordBuffer.overwrite_ne_staleLineMark _ _ _ _ hover
    · intro hfault
      cases hfault

/-- **A mark is too old exactly when the stream was cleared since it was handed out.**  The run
before, and the one between the mark and its use, are any runs.  Where the stream was cleared the
mark is refused and nothing is changed; where it was not, the mark is not refused as too old.  And a
count kept in a word of 64 bits, which starts again from zero when it is full, tells the same as long
as a word can count the clearings since the mark was handed out. -/
theorem endLine_stale_iff_cleared (config : StreamConfig)
    (before between : List (Operation α)) (info : LineInfo) :
    let opened := ((ofConfig config : Stream α).run before).2.beginLine info
    let mark := opened.1
    let after := (opened.2.run between).2
    (.clear ∈ between →
        after.perform (.endLine mark) = (.fault (.staleLineMark mark.place.index), after)) ∧
      (.clear ∉ between →
        ∀ index, (after.perform (.endLine mark)).1 ≠ .fault (.staleLineMark index)) ∧
      (clearings between < UInt64.size →
        (UInt64.ofNat mark.generation ≠ UInt64.ofNat after.generation ↔ .clear ∈ between)) := by
  intro opened mark after
  have hafter : after.generation = mark.generation + clearings between :=
    generation_run opened.2 between
  refine ⟨?_, ?_, ?_⟩
  · intro hclear
    have hpos := clearings_pos_iff.2 hclear
    exact perform_endLine_of_ne (by omega)
  · intro hclear
    have hzero := mt clearings_pos_iff.1 hclear
    exact perform_endLine_ne_stale (by omega)
  · intro hfew
    -- the two counts differ by less than a word can count
    have hwords : UInt64.ofNat mark.generation = UInt64.ofNat after.generation ↔
        clearings between = 0 := by
      rw [← UInt64.toNat_inj, UInt64.toNat_ofNat', UInt64.toNat_ofNat', hafter]
      rw [UInt64.size] at hfew
      omega
    rw [Ne, hwords, ← clearings_pos_iff]
    omega

/-- The same commands are written again after a clearing, so that a line stands where the mark names
one.  The mark is refused, and a mark of the new line is not. -/
theorem endLine_stale_iff_cleared_rewritten :
    let between : List (Operation Unit) :=
      [.write .toggleBold, .clear, .write (.blockInfo {}), .beginLine {}, .write .toggleBold]
    let opened := ((ofConfig {} : Stream Unit).run [.write (.blockInfo {})]).2.beginLine {}
    let after := (opened.2.run between).2
    .clear ∈ between ∧ opened.1.place = ⟨1, 17⟩ ∧ after.commandCount = 3 ∧
      after.perform (.endLine opened.1) = (.fault (.staleLineMark 1), after) ∧
      (UInt64.ofNat opened.1.generation ≠ UInt64.ofNat after.generation) := by
  intro between opened after
  have hclear : .clear ∈ between := List.mem_cons_of_mem _ List.mem_cons_self
  have hmarks := endLine_stale_iff_cleared {} [.write (.blockInfo {})] between {}
  exact ⟨hclear, rfl, rfl, hmarks.1 hclear, (hmarks.2.2 (by decide)).2 hclear⟩

end Stream

end StyledText
