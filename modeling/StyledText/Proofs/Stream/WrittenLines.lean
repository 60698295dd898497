import StyledText.Proofs.Stream.LineMark
import StyledText.Stream.Operation

/-!
# Lines written one after another

A layout opens a line, writes what stands in it, and ends it with the mark that it was given; then
comes the next line.  What this leaves is a header and, for each line, a command that tells **how
many commands follow it** and then these commands.  So the chain of lines leads from each line to
the next, and a line is found by its number from wherever the cursor stands.

* `Represents.writeLine`, `Represents.writeLines` — the commands that lines leave behind.
* `getElem?_lineStart` — the command that opens a line stands at `lineStart`.
* `followLines_allCommands` — the chain of lines leads over the lines that were written.
* `Stream.seekLine_writeLines` — what seeking a line does after lines were written.
-/

namespace StyledText

open Command

/-! ### Lines and their commands -/

/-- A line to be written: its measures, and the commands that stand in it.  They do not open lines
themselves, and their number fits a word. -/
structure Line where
  info : LineInfo
  body : List Command
  length_lt : body.length < UInt32.size
  kind_ne : ∀ c ∈ body, c.kind ≠ .lineInfo

/-- What a line tells of itself once it is ended. -/
def Line.ended (line : Line) : LineInfo :=
  { line.info with lengthInCommands := UInt32.ofNat line.body.length }

/-- What a line leaves in the stream. -/
def Line.commands (line : Line) : List Command := .lineInfo line.ended :: line.body

/-- What lines leave in the stream. -/
def Line.allCommands (lines : List Line) : List Command := lines.flatMap Line.commands

/-- The index of the command that opens a line, behind the header and the lines before. -/
def Line.lineStart (lines : List Line) (j : Nat) : Nat :=
  (lines.take j).foldl (fun index line => index + (1 + line.body.length)) 1

namespace Line

theorem toNat_length_ended (line : Line) :
    line.ended.lengthInCommands.toNat = line.body.length :=
  UInt32.toNat_ofNat_of_lt' line.length_lt

theorem length_commands (line : Line) : line.commands.length = 1 + line.body.length :=
  Nat.add_comm ..

theorem allCommands_cons (line : Line) (lines : List Line) :
    allCommands (line :: lines) = line.commands ++ allCommands lines := rfl

theorem lineStart_eq (lines : List Line) (j : Nat) :
    lineStart lines j = 1 + (allCommands (lines.take j)).length := by
  have hfold (first : List Line) (n : Nat) :
      first.foldl (fun index line => index + (1 + line.body.length)) n
        = n + (allCommands first).length := by
    induction first generalizing n with
    | nil => rfl
    | cons line first ih =>
      rw [List.foldl_cons, ih, allCommands_cons, List.length_append, length_commands]
      omega
  exact hfold (lines.take j) 1

/-- As many lines are opened as were written. -/
theorem countP_allCommands (lines : List Line) :
    (allCommands lines).countP (fun c => c.kind = .lineInfo) = lines.length := by
  induction lines with
  | nil => rfl
  | cons line lines ih =>
    have hbody : line.body.countP (fun c => c.kind = .lineInfo) = 0 := by
      rw [List.countP_eq_zero]
      intro c hc
      have hne := line.kind_ne c hc
      simpa using hne
    have hline : line.commands.countP (fun c => c.kind = .lineInfo) = 1 := by
      rw [commands, List.countP_cons, hbody]
      rfl
    rw [allCommands_cons, List.countP_append, hline, ih, List.length_cons, Nat.add_comm]

/-- **The command that opens a line** tells its length. -/
theorem getElem?_lineStart (header : Command) {lines : List Line} {j : Nat} {line : Line}
    (hj : lines[j]? = some line) :
    (header :: allCommands lines)[lineStart lines j]? = some (.lineInfo line.ended) := by
  obtain ⟨hlt, hget⟩ := List.getElem?_eq_some_iff.1 hj
  have hsplit : allCommands lines =
      allCommands (lines.take j) ++ (line.commands ++ allCommands (lines.drop (j + 1))) := by
    rw [← allCommands_cons, ← hget, ← List.drop_eq_getElem_cons hlt, allCommands, allCommands,
      allCommands, ← List.flatMap_append, List.take_append_drop]
  rw [lineStart_eq, Nat.add_comm, List.getElem?_cons_succ, hsplit,
    List.getElem?_append_right (Nat.le_refl _), Nat.sub_self]
  rfl

/-! ### The chain of lines -/

/-- **The chain of lines leads over the lines that were written**, as far as there are any, whatever
stands before them. -/
theorem followLines_allCommands (front : List Command) {lines : List Line} {n : Nat}
    (hn : n ≤ lines.length) :
    followLines (front ++ allCommands lines) n front.length
      = .ok (front.length + (allCommands (lines.take n)).length) := by
  induction n generalizing front lines with
  | zero => rfl
  | succ n ih =>
    cases lines with
    | nil => exact absurd hn (Nat.not_succ_le_zero n)
    | cons line lines =>
      have hinfo : lineInfoAt (front ++ allCommands (line :: lines)) front.length
          = .ok line.ended := by
        rw [lineInfoAt_eq_ok_iff, List.getElem?_append_right (Nat.le_refl _), Nat.sub_self]
        rfl
      -- the length that the line tells leads behind its last command
      have hnext : front.length + (1 + line.ended.lengthInCommands.toNat)
          = (front ++ line.commands).length := by
        rw [line.toNat_length_ended, List.length_append, line.length_commands]
      have hrest := ih (front ++ line.commands) (Nat.le_of_succ_le_succ hn)
      rw [List.append_assoc, ← allCommands_cons] at hrest
      have hle : (front ++ line.commands).length
          ≤ (front ++ allCommands (line :: lines)).length := by
        rw [allCommands_cons, List.length_append, List.length_append, List.length_append]
        omega
      simp only [followLines, hinfo, hnext]
      rw [if_neg (Nat.not_lt.2 hle), hrest, List.take_succ_cons, allCommands_cons,
        List.length_append, List.length_append, Nat.add_assoc]

/-- A line is looked up behind the command that opens it. -/
theorem indexInLine_eq (header : Command) {lines : List Line} {j : Nat} (hj : j < lines.length) :
    indexInLine (header :: allCommands lines) j = .ok (lineStart lines j + 1) := by
  have hstart : followLines (header :: allCommands lines) j 1 = .ok (lineStart lines j) := by
    rw [lineStart_eq]
    exact followLines_allCommands [header] (Nat.le_of_lt hj)
  have hopen := getElem?_lineStart header (List.getElem?_eq_getElem hj)
  rw [indexInLine, if_neg (by simp), hstart]
  simp only [lineInfoAt_eq_ok_iff.2 hopen]
  rfl

end Line

namespace Stream

variable {α : Type}

/-! ### Writing lines -/

/-- Writes commands in a row. -/
def writeAll (s : Stream α) (cs : List Command) : Stream α := cs.foldl write s

/-- Opens a line, writes what stands in it, and ends it with the mark that it was given. -/
def writeLine (s : Stream α) (line : Line) : Except StreamError (Stream α) :=
  let (mark, opened) := s.beginLine line.info
  (opened.writeAll line.body).endLine mark

/-- Writes lines in a row. -/
def writeLines (s : Stream α) (lines : List Line) : Except StreamError (Stream α) :=
  lines.foldlM writeLine s

@[simp] theorem generation_writeAll (s : Stream α) (cs : List Command) :
    (s.writeAll cs).generation = s.generation := by
  induction cs generalizing s with
  | nil => rfl
  | cons c cs ih => exact ih (s.write c)

namespace Represents

variable {s : Stream α} {cs : List Command}

theorem writeAll (h : s.Represents cs) (ds : List Command) :
    (s.writeAll ds).Represents (cs ++ ds) := by
  induction ds generalizing s cs with
  | nil =>
    rw [List.append_nil]
    exact h
  | cons d ds ih =>
    have hrest := ih (h.write d)
    rw [List.append_assoc] at hrest
    exact hrest

/-- A line is written behind what is there, and the command that opened it is given its length. -/
theorem writeLine (h : s.Represents cs) (line : Line) :
    ∃ t, s.writeLine line = .ok t ∧ t.Represents (cs ++ line.commands) := by
  let opened : Command := .lineInfo { line.info with lengthInCommands := 0 }
  have hplace : (s.beginLine line.info).1.place.index = cs.length := h.holds.count_eq
  have hwritten : ((s.beginLine line.info).2.writeAll line.body).Represents
      ((cs ++ [opened]) ++ line.body) := (h.write opened).writeAll line.body
  have hopens := (h.beginLine line.info).append line.body
  have hend := hwritten.endLine_eq hopens (generation_writeAll (s.write opened) line.body).symm
  have hafter := hwritten.endLine cs.length
  have hlength : ((cs ++ [opened]) ++ line.body).length - (cs.length + 1) = line.body.length := by
    rw [List.length_append, List.length_append, List.length_singleton]
    omega
  have hget : ((cs ++ [opened]) ++ line.body)[cs.length]? = some opened := by
    rw [List.append_assoc, List.getElem?_append_right (Nat.le_refl _), Nat.sub_self]
    rfl
  -- ending the line replaces the command that opened it, and that one alone
  have hended : endLineAt ((cs ++ [opened]) ++ line.body) cs.length = cs ++ line.commands := by
    rw [endLineAt_eq_set hget, hlength, List.append_assoc,
      List.set_append_right _ _ (Nat.le_refl _), Nat.sub_self]
    rfl
  rw [hended] at hafter
  exact ⟨_, hend.trans (by rw [hplace, hended]), hafter⟩

/-- Writing lines never fails, and leaves the commands of the lines. -/
theorem writeLines (h : s.Represents cs) (lines : List Line) :
    ∃ t, s.writeLines lines = .ok t ∧ t.Represents (cs ++ Line.allCommands lines) := by
  induction lines generalizing s cs with
  | nil =>
    refine ⟨s, rfl, ?_⟩
    show s.Represents (cs ++ [])
    rw [List.append_nil]
    exact h
  | cons line lines ih =>
    obtain ⟨t, hline, ht⟩ := h.writeLine line
    obtain ⟨u, hlines, hu⟩ := ih ht
    refine ⟨u, ?_, ?_⟩
    · rw [Stream.writeLines, List.foldlM_cons, hline]
      exact hlines
    · rw [Line.allCommands_cons, ← List.append_assoc]
      exact hu

end Represents

/-! ### Finding lines again -/

/-- **Lines that were written are found by their numbers.**  On a stream without commands, a header
and then lines can always be written.  After that the lines are counted; the command that opens a
line stands behind the header and the lines before, tells how many commands stand in the line, and
is otherwise as it was given; and from every place of the cursor, seeking a line goes to the first
command in it, or is refused and moves nothing when there is no such line. -/
theorem seekLine_writeLines (s : Stream α) (hbuffer : s.buffer = .empty) (hcount : s.lineCount = 0)
    (header : Command) (hheader : header.kind ≠ .lineInfo) (lines : List Line) :
    ∃ t cs, (s.write header).writeLines lines = .ok t ∧
      t.commands = cs.map .ok ∧
      t.lineCount = lines.length ∧
      (∀ j line, lines[j]? = some line → ∃ info,
        cs[Line.lineStart lines j]? = some (.lineInfo info) ∧
          info.lengthInCommands.toNat = line.body.length ∧
          { info with lengthInCommands := line.info.lengthInCommands } = line.info) ∧
      ∀ p ≤ cs.length, let u := t.moveTo (.ofIndex cs p)
        (∀ j < lines.length, u.perform (.seekLine j) =
          (.done, t.moveTo (.ofIndex cs (Line.lineStart lines j + 1)))) ∧
        ∀ j ≥ lines.length, u.perform (.seekLine j) =
          (.fault (.lineOutOfRange j lines.length), u) := by
  have hempty : s.Represents [] := by
    refine ⟨?_, hcount, ?_, ?_⟩
    · rw [hbuffer]; exact .empty
    · rw [position, hbuffer]; exact Nat.le_refl 0
    · rw [position, hbuffer]; rfl
  obtain ⟨t, hwrite, ht⟩ := (hempty.write header).writeLines lines
  have hlines : t.lineCount = lines.length := by
    rw [ht.lineCount_eq, List.nil_append, List.singleton_append,
      List.countP_cons_of_neg (by simpa using hheader), Line.countP_allCommands]
  refine ⟨t, header :: Line.allCommands lines, hwrite, ht.commands_eq, hlines, ?_, ?_⟩
  · intro j line hj
    exact ⟨line.ended, Line.getElem?_lineStart header hj, line.toNat_length_ended, rfl⟩
  · intro p hp u
    have hu : u.Represents (header :: Line.allCommands lines) := ht.moveTo hp
    have hulines : u.lineCount = lines.length := hlines
    constructor
    · intro j hj
      rw [perform, hu.seekLine_eq, hulines, if_neg (Nat.not_le.2 hj), Line.indexInLine_eq header hj]
      rfl
    · intro j hj
      rw [perform, hu.seekLine_eq, hulines, if_pos hj]
      rfl

/-- Two lines, the first without commands.  The second is found behind its command, at index 3. -/
theorem seekLine_writeLines_two :
    let lines : List Line :=
      [⟨{}, [], by decide, by decide⟩, ⟨{ lineNumber := 1 }, [.toggleBold], by decide, by decide⟩]
    ∃ (t : Stream Unit) (cs : List Command),
      ((ofConfig {}).write (.blockInfo {})).writeLines lines = .ok t ∧
        (t.moveTo (.ofIndex cs 0)).perform (.seekLine 1) = (.done, t.moveTo (.ofIndex cs 3)) := by
  intro lines
  obtain ⟨t, cs, hwrite, _, _, _, hseek⟩ :=
    seekLine_writeLines (ofConfig {} : Stream Unit) rfl rfl (.blockInfo {}) (by decide) lines
  exact ⟨t, cs, hwrite, (hseek 0 (Nat.zero_le _)).1 1 (by decide)⟩

end Stream

end StyledText
