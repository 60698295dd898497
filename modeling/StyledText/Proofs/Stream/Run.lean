import StyledText.Proofs.Stream.Damage
import StyledText.Proofs.Stream.LineMark

/-!
# Runs that end their own lines

What becomes of a stream over a whole run can be told without looking at a byte, from the operations
and their outcomes: `written` is **the list of the commands written since the last clearing**, with
the lengths of ended lines filled in.  The one thing that a run must not do is end a line with a mark
of another stream (`Stream.UsesOwnMarks`).  Marks from before a clearing, and marks used before, are
allowed; so are operations that fail.

* `Stream.Tracks` — the invariant: the stream represents the commands, and every mark of its present
  generation opens a line in them.
* `Stream.Tracks.perform` — one operation keeps the invariant and tells of no damage.
* `Stream.Tracks.run` — so does a run.
* `Stream.run_represents_written` — what a run leaves, written out.

A view of a pinned stream offers the raw bytes, the record at the cursor and some of the operations
here, so what is said of a run holds of what is done through such a view as well.
-/

namespace StyledText

open Command

variable {α : Type}

/-! ### Marks -/

/-- The mark that an operation ends a line with. -/
def Operation.mark? : Operation α → Option LineMark
  | .endLine mark => some mark
  | _ => none

/-- The mark that an outcome hands out. -/
def Outcome.mark? : Outcome α → Option LineMark
  | .mark m => some m
  | _ => none

/-- Every line is ended with one of the given marks or with a mark that was handed out before in the
run. -/
def Stream.UsesOwnMarks (marks : List LineMark) (s : Stream α) : List (Operation α) → Prop
  | [] => True
  | operation :: operations =>
    operation.mark?.toList ⊆ marks ∧
      UsesOwnMarks (marks ++ (s.perform operation).1.mark?.toList) (s.perform operation).2 operations

instance Stream.decidableUsesOwnMarks (marks : List LineMark) (s : Stream α) :
    (operations : List (Operation α)) → Decidable (s.UsesOwnMarks marks operations)
  | [] => isTrue trivial
  | operation :: operations =>
    have := decidableUsesOwnMarks (marks ++ (s.perform operation).1.mark?.toList)
      (s.perform operation).2 operations
    inferInstanceAs (Decidable (_ ∧ _))

/-! ### The commands of a run -/

/-- The command that makes a source with the given index the current one. -/
def Source.change (source : Source) (index : Nat) : Command :=
  if source.isBuilder then .changeSourceStringBuilder (UInt32.ofNat index)
  else .changeSourceString (UInt32.ofNat index)

/-- The commands after an operation, by what it was asked to do and what it answered. -/
def Operation.logged : Operation α → Outcome α → List Command → List Command
  | .write c, _, cs => cs ++ [c]
  | .beginLine info, _, cs => cs ++ [.lineInfo { info with lengthInCommands := 0 }]
  | .changeSource origin, .index index, cs => cs ++ [origin.change index]
  | .endLine mark, .done, cs => endLineAt cs mark.place.index
  | .clear, _, _ => []
  | _, _, cs => cs

/-- The commands written since the last clearing, in order, with the lengths of ended lines filled
in. -/
def written (steps : List (Operation α × Outcome α)) : List Command :=
  steps.foldl (fun cs step => step.1.logged step.2 cs) []

namespace Stream

/-! ### The invariant -/

/-- The stream represents the commands, and the marks of its present generation open lines in them.
No mark is of a later generation, so that clearing leaves no mark good. -/
structure Tracks (s : Stream α) (cs : List Command) (marks : List LineMark) : Prop where
  represents : s.Represents cs
  /-- Marks are handed out in the past. -/
  generation_le : ∀ mark ∈ marks, mark.generation ≤ s.generation
  /-- A mark opens a line until the stream is cleared. -/
  opens : ∀ mark ∈ marks, mark.generation = s.generation → mark.Opens cs

namespace Tracks

variable {s t : Stream α} {cs : List Command} {marks : List LineMark} {p : Nat}

theorem ofConfig (config : StreamConfig) : (Stream.ofConfig config : Stream α).Tracks [] [] :=
  ⟨.ofConfig config, fun _ hmark => absurd hmark List.not_mem_nil,
    fun _ hmark => absurd hmark List.not_mem_nil⟩

/-- Settings, resources and sources do not matter. -/
theorem congr (h : s.Tracks cs marks) (hbuffer : t.buffer = s.buffer)
    (hlines : t.lineCount = s.lineCount) (hgeneration : t.generation = s.generation) :
    t.Tracks cs marks := by
  refine ⟨h.represents.congr hbuffer hlines, ?_, ?_⟩
  · rw [hgeneration]; exact h.generation_le
  · rw [hgeneration]; exact h.opens

/-- The cursor does not matter, as long as it stands before a record or at the end. -/
theorem moveTo (h : s.Tracks cs marks) (hp : p ≤ cs.length) :
    (s.moveTo (.ofIndex cs p)).Tracks cs marks :=
  ⟨h.represents.moveTo hp, h.generation_le, h.opens⟩

theorem write (h : s.Tracks cs marks) (c : Command) : (s.write c).Tracks (cs ++ [c]) marks := by
  refine ⟨h.represents.write c, h.generation_le, ?_⟩
  intro mark hmark hgeneration
  exact (h.opens mark hmark hgeneration).append [c]

/-- A line that is opened has a mark that opens it. -/
theorem beginLine (h : s.Tracks cs marks) (info : LineInfo) :
    (s.beginLine info).2.Tracks (cs ++ [.lineInfo { info with lengthInCommands := 0 }])
      (marks ++ [(s.beginLine info).1]) := by
  have hwrite := h.write (.lineInfo { info with lengthInCommands := 0 })
  refine ⟨hwrite.represents, ?_, ?_⟩
  · intro mark hmark
    rcases List.mem_append.1 hmark with hold | hnew
    · exact h.generation_le mark hold
    · rw [List.mem_singleton.1 hnew]
      exact Nat.le_refl _
  · intro mark hmark hgeneration
    rcases List.mem_append.1 hmark with hold | hnew
    · exact hwrite.opens mark hold hgeneration
    · rw [List.mem_singleton.1 hnew]
      exact h.represents.beginLine info

/-- Ending a line leaves every mark good, the one used included. -/
theorem endLine (h : s.Tracks cs marks) (index : Nat) :
    (s.withCommands (endLineAt cs index)).Tracks (endLineAt cs index) marks := by
  refine ⟨h.represents.endLine index, h.generation_le, ?_⟩
  intro mark hmark hgeneration
  exact (h.opens mark hmark hgeneration).endLineAt index

/-- Clearing makes all marks marks of the past. -/
theorem clear (h : s.Tracks cs marks) : s.clear.Tracks [] marks := by
  refine ⟨⟨.empty, rfl, Nat.le_refl 0, rfl⟩, ?_, ?_⟩
  · intro mark hmark
    exact Nat.le_succ_of_le (h.generation_le mark hmark)
  · intro mark hmark hgeneration
    have hle := h.generation_le mark hmark
    have hlater : mark.generation = s.generation + 1 := hgeneration
    omega

end Tracks

/-! ### One operation -/

/-- The result of an operation keeps the invariant, with the mark that is handed out among the
marks, and tells of no damage. -/
structure Keeps (result : Outcome α × Stream α) (cs : List Command) (marks : List LineMark) :
    Prop where
  tracks : result.2.Tracks cs (marks ++ result.1.mark?.toList)
  undamaged : ∀ e ∈ result.1.faults, ¬e.IsDamage

namespace Tracks

variable {s t : Stream α} {cs : List Command} {marks : List LineMark}

/-- An outcome without a mark and without a fault. -/
theorem keeps (h : t.Tracks cs marks) {outcome : Outcome α} (hmark : outcome.mark? = none)
    (hfaults : outcome.faults = []) : Keeps (outcome, t) cs marks := by
  constructor
  · rw [hmark, Option.toList_none, List.append_nil]
    exact h
  · rw [hfaults]
    intro e he
    exact absurd he List.not_mem_nil

/-- A fault other than damage. -/
theorem keeps_fault (h : t.Tracks cs marks) {e : StreamError} (he : ¬e.IsDamage) :
    Keeps (.fault e, t) cs marks := by
  constructor
  · show t.Tracks cs (marks ++ [])
    rw [List.append_nil]
    exact h
  · intro e' he'
    rw [List.mem_singleton.1 he']
    exact he

theorem keeps_endLine (h : s.Tracks cs marks) {mark : LineMark} (hmark : mark ∈ marks) :
    Keeps (s.perform (.endLine mark))
      (Operation.logged (.endLine mark) (s.perform (.endLine mark)).1 cs) marks := by
  by_cases hgeneration : mark.generation = s.generation
  · have hend := h.represents.endLine_eq (h.opens mark hmark hgeneration) hgeneration
    rw [perform, hend]
    exact (h.endLine mark.place.index).keeps rfl rfl
  · rw [perform, Stream.endLine, if_pos hgeneration]
    exact h.keeps_fault id

theorem keeps_changeSource (h : s.Tracks cs marks) (source : Source) :
    Keeps (s.perform (.changeSource source))
      (Operation.logged (.changeSource source) (s.perform (.changeSource source)).1 cs) marks := by
  have hregistered : ({ s with sources := (s.sources.register source).2 } : Stream α).Tracks cs marks :=
    h.congr rfl rfl rfl
  exact (hregistered.write (source.change (s.sources.register source).1)).keeps rfl rfl

theorem keeps_read (h : s.Tracks cs marks) (expected : Kind) :
    Keeps (s.perform (.read expected)) cs marks := by
  rw [perform, h.represents.read_eq]
  cases hp : cs[s.position]? with
  | none => exact h.keeps_fault id
  | some c =>
    have hlt := (List.getElem?_eq_some_iff.1 hp).1
    dsimp only
    by_cases hkind : c.kind = expected
    · rw [if_pos hkind]
      exact (h.moveTo hlt).keeps rfl rfl
    · rw [if_neg hkind]
      exact h.keeps_fault id

theorem keeps_readCommand (h : s.Tracks cs marks) : Keeps (s.perform .readCommand) cs marks := by
  rw [perform, h.represents.readCommand_eq]
  cases hp : cs[s.position]? with
  | none => exact h.keeps_fault id
  | some c => exact (h.moveTo (List.getElem?_eq_some_iff.1 hp).1).keeps rfl rfl

theorem keeps_peek (h : s.Tracks cs marks) : Keeps (s.perform .peek) cs marks := by
  rw [perform, h.represents.peek_eq]
  cases cs[s.position]? with
  | none => exact h.keeps_fault id
  | some c => exact h.keeps rfl rfl

theorem keeps_commands (h : s.Tracks cs marks) : Keeps (s.perform .commands) cs marks := by
  have hfaults (ds : List Command) : Outcome.faults (α := α) (.commands (ds.map .ok)) = [] := by
    induction ds with
    | nil => rfl
    | cons d ds ih => exact ih
  rw [perform, h.represents.commands_eq]
  exact h.keeps rfl (hfaults cs)

theorem keeps_seek (h : s.Tracks cs marks) (index : Nat) :
    Keeps (s.perform (.seek index)) cs marks := by
  rw [perform, h.represents.seek_eq]
  by_cases hi : cs.length < index
  · rw [if_pos hi]
    exact h.keeps_fault id
  · rw [if_neg hi]
    exact (h.moveTo (Nat.le_of_not_lt hi)).keeps rfl rfl

theorem keeps_seekLine (h : s.Tracks cs marks) (line : Nat) :
    Keeps (s.perform (.seekLine line)) cs marks := by
  rw [perform, h.represents.seekLine_eq]
  by_cases hline : s.lineCount ≤ line
  · rw [if_pos hline]
    exact h.keeps_fault id
  · rw [if_neg hline]
    rcases indexInLine_cases cs line with ⟨p, hp, hle⟩ | ⟨e, he, hdamage⟩
    · rw [hp]
      exact (h.moveTo hle).keeps rfl rfl
    · rw [he]
      exact h.keeps_fault hdamage

theorem keeps_seekNextCommand (h : s.Tracks cs marks) :
    Keeps (s.perform .seekNextCommand) cs marks := by
  rw [perform, h.represents.seekNextCommand_eq]
  by_cases hp : s.position < cs.length
  · rw [if_pos hp]
    exact (h.moveTo hp).keeps rfl rfl
  · rw [if_neg hp]
    exact h.keeps rfl rfl

theorem keeps_seekNextLine (h : s.Tracks cs marks) :
    Keeps (s.perform .seekNextLine) cs marks := by
  rw [perform, h.represents.seekNextLine_eq]
  cases hp : cs[s.position]? with
  | none => exact h.keeps rfl rfl
  | some c =>
    have hlt := (List.getElem?_eq_some_iff.1 hp).1
    -- the scan stops within the commands behind the cursor
    have hscan : (cs.drop (s.position + 1)).findIdx (fun c => c.kind == .lineInfo)
        ≤ cs.length - (s.position + 1) := by
      rw [← List.length_drop]
      exact List.findIdx_le_length
    cases c with
    | lineInfo info =>
      dsimp only
      by_cases hn : cs.length < s.position + (1 + info.lengthInCommands.toNat)
      · rw [if_pos hn]
        exact h.keeps_fault id
      · rw [if_neg hn]
        exact (h.moveTo (Nat.le_of_not_lt hn)).keeps rfl rfl
    | _ => exact (h.moveTo (by omega)).keeps rfl rfl

theorem keeps_replay (h : s.Tracks cs marks) (store : SourceStore) :
    Keeps (s.perform (.replay store)) cs marks := by
  constructor
  · show s.Tracks cs (marks ++ [])
    rw [List.append_nil]
    exact h
  · intro e he
    have hfault : (s.replay store).fault = some e := Option.mem_toList.1 he
    rw [replay, h.represents.commands_eq] at hfault
    exact not_isDamage_of_replayFrom hfault

/-- **One operation keeps the invariant** and tells of no damage. -/
theorem perform (h : s.Tracks cs marks) {operation : Operation α}
    (huse : operation.mark?.toList ⊆ marks) :
    Keeps (s.perform operation) (operation.logged (s.perform operation).1 cs) marks := by
  cases operation with
  | write c => exact (h.write c).keeps rfl rfl
  | beginLine info => exact ⟨h.beginLine info, fun e he => absurd he List.not_mem_nil⟩
  | endLine mark => exact h.keeps_endLine (huse List.mem_cons_self)
  | changeSource source => exact h.keeps_changeSource source
  | read expected => exact h.keeps_read expected
  | readCommand => exact h.keeps_readCommand
  | peek => exact h.keeps_peek
  | currentKind =>
    show Keeps (.ofExcept .kind s.currentKind, s) cs marks
    rw [h.represents.currentKind_eq]
    exact h.keeps rfl rfl
  | commands => exact h.keeps_commands
  | seek index => exact h.keeps_seek index
  | seekLine line => exact h.keeps_seekLine line
  | seekNextCommand => exact h.keeps_seekNextCommand
  | seekNextLine => exact h.keeps_seekNextLine
  | replay store => exact h.keeps_replay store
  | clear => exact h.clear.keeps rfl rfl
  -- the rest touches neither the records nor the count of lines
  | _ => refine Tracks.keeps (h.congr ?_ ?_ ?_) ?_ ?_ <;> rfl

/-! ### Whole runs -/

/-- **A run keeps the invariant**, for the commands logged and for the marks with those handed out,
and none of its outcomes tells of damage. -/
theorem run (h : s.Tracks cs marks) {operations : List (Operation α)}
    (huse : s.UsesOwnMarks marks operations) :
    (s.run operations).2.Tracks
        ((operations.zip (s.run operations).1).foldl (fun cs step => step.1.logged step.2 cs) cs)
        (marks ++ (s.run operations).1.filterMap Outcome.mark?) ∧
      ∀ outcome ∈ (s.run operations).1, ∀ e ∈ outcome.faults, ¬e.IsDamage := by
  induction operations generalizing s cs marks with
  | nil =>
    refine ⟨?_, fun outcome houtcome => absurd houtcome List.not_mem_nil⟩
    show s.Tracks cs (marks ++ [])
    rw [List.append_nil]
    exact h
  | cons operation operations ih =>
    obtain ⟨hfirst, hrest⟩ := huse
    have hstep := h.perform hfirst
    obtain ⟨htracks, hundamaged⟩ := ih hstep.tracks hrest
    constructor
    · rw [List.append_assoc] at htracks
      have hmarks (outcome : Outcome α) (outcomes : List (Outcome α)) :
          outcome.mark?.toList ++ outcomes.filterMap Outcome.mark?
            = (outcome :: outcomes).filterMap Outcome.mark? := by
        rw [List.filterMap_cons]
        cases outcome.mark? <;> rfl
      rw [hmarks] at htracks
      exact htracks
    · intro outcome houtcome
      rcases List.mem_cons.1 houtcome with rfl | hlater
      · exact hstep.undamaged
      · exact hundamaged outcome hlater

end Tracks

/-! ### What a run leaves -/

/-- The stream is what a run leaves that starts with a new stream, ends its own lines, and writes the
commands `cs`. -/
def Reached (s : Stream α) (cs : List Command) : Prop :=
  ∃ (config : StreamConfig) (operations : List (Operation α)),
    (ofConfig config).UsesOwnMarks [] operations ∧
      s = ((ofConfig config).run operations).2 ∧
      cs = written (operations.zip ((ofConfig config : Stream α).run operations).1)

/-- A stream represents the commands of the run that led to it. -/
theorem Reached.represents {s : Stream α} {cs : List Command} (h : s.Reached cs) :
    s.Represents cs := by
  obtain ⟨config, operations, huse, hs, hcs⟩ := h
  rw [hs, hcs]
  exact ((Tracks.ofConfig config).run huse).1.represents

/-- **What a run leaves are the records of the commands written.**  The bytes are these records and
nothing else, the commands and the lines among them are counted, the cursor stands before one of the
records or at the end, and no operation of the run met damaged bytes. -/
theorem run_represents_written (config : StreamConfig) (operations : List (Operation α))
    (huse : (ofConfig config).UsesOwnMarks [] operations) :
    let outcomes := ((ofConfig config : Stream α).run operations).1
    let s := ((ofConfig config : Stream α).run operations).2
    let cs := written (operations.zip outcomes)
    s.buffer.bytes = encodeAll cs ∧
      s.commandCount = cs.length ∧
      s.lineCount = cs.countP (fun c => c.kind = .lineInfo) ∧
      s.position ≤ cs.length ∧
      s.buffer.cursor.offset = recordsLength (cs.take s.position) ∧
      s.buffer.currentRecord? = cs[s.position]?.map toBytes ∧
      s.commands = cs.map .ok ∧
      ∀ outcome ∈ outcomes, ∀ e ∈ outcome.faults, ¬e.IsDamage := by
  intro outcomes s cs
  obtain ⟨htracks, hundamaged⟩ := (Tracks.ofConfig config).run huse
  have h : s.Represents cs := htracks.represents
  refine ⟨h.holds.bytes_eq, h.commandCount_eq, h.lineCount_eq, h.position_le, ?_, ?_,
    h.commands_eq, hundamaged⟩
  · rw [h.cursor_eq, Cursor.offset_ofIndex]
  · exact h.holds.currentRecord?_eq h.cursor_eq

/-- A line is ended twice, cleared away, and written again with the stale mark refused. -/
theorem run_represents_written_after_clear :
    let operations : List (Operation Unit) :=
      [.write (.blockInfo {}), .beginLine {}, .write .toggleBold, .endLine ⟨⟨1, 17⟩, {}, 0⟩,
        .endLine ⟨⟨1, 17⟩, {}, 0⟩, .seekLine 0, .read .popStyle, .clear,
        .write (.hyphen .zero), .beginLine {}, .endLine ⟨⟨1, 17⟩, {}, 0⟩, .seek 1]
    (ofConfig {}).UsesOwnMarks [] operations ∧
      ((ofConfig {}).run operations).2.buffer.bytes =
        encodeAll [.hyphen .zero, .lineInfo {}] := by
  intro operations
  have huse : (ofConfig {}).UsesOwnMarks [] operations := by decide
  exact ⟨huse, (run_represents_written {} operations huse).1⟩

end Stream

end StyledText
