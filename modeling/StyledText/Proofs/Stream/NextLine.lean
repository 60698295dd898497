import Mathlib.Data.List.Basic
import StyledText.Proofs.Stream.Run
import StyledText.Proofs.Stream.WrittenLines

/-!
# Going from line to line

From the command that opens a line, the next line is one step away, and a caller who wants all lines
goes on for as long as the step answers that there is more.  The answer is not whether a line was
landed on.  It is whether **a command follows the one landed on**, and there is none behind the last
line when that line has no commands of its own: the step stands on it and answers no.

So stepping finds all lines, but for a last line without commands.

* `Stream.StepsByLine` — going on while the answer is yes, and where that was.
* `Stream.Represents.perform_seekNextLine_line` — one step from the start of a line.
* `Stream.Represents.stepsByLine_front` — the steps from there on.
* `Stream.Represents.stepsByLine_iff` — the steps from the first line on, and
  `Stream.not_stepsByLine_two_empty` — a line that they miss.
-/

namespace StyledText

open Command

/-! ### Where lines start -/

/-- The indices of the commands that open lines, counted from `start`. -/
def lineIndicesFrom (start : Nat) (cs : List Command) : List Nat :=
  cs.findIdxs (fun c => c.kind = .lineInfo) start

namespace Line

/-- Whether there are lines and the last one has no commands of its own. -/
def endsEmpty (lines : List Line) : Bool := lines.getLast?.any fun line => line.body.isEmpty

/-- The indices of the lines that are found where lines are written from `start` on: all but a last
line without commands. -/
def linesFound (start : Nat) (lines : List Line) : List Nat :=
  let indices := lineIndicesFrom start (allCommands lines)
  if endsEmpty lines then indices.dropLast else indices

/-- The index at which no more lines are found. -/
def stop (count : Nat) (lines : List Line) : Nat := if endsEmpty lines then count - 1 else count

theorem lineIndicesFrom_allCommands_cons (start : Nat) (line : Line) (rest : List Line) :
    lineIndicesFrom start (allCommands (line :: rest)) =
      start :: lineIndicesFrom (start + line.commands.length) (allCommands rest) := by
  have hbody : line.body.findIdxs (fun c => c.kind = .lineInfo) (start + 1) = [] := by
    rw [List.findIdxs_eq_nil_iff]
    intro c hc
    exact decide_eq_false (line.kind_ne c hc)
  have hline : line.commands.findIdxs (fun c => c.kind = .lineInfo) start = [start] := by
    rw [commands, List.findIdxs_cons, hbody]
    rfl
  rw [allCommands_cons, lineIndicesFrom, List.findIdxs_append, hline]
  rfl

theorem endsEmpty_cons_cons (line next : Line) (rest : List Line) :
    endsEmpty (line :: next :: rest) = endsEmpty (next :: rest) := by
  rw [endsEmpty, List.getLast?_cons_cons, endsEmpty]

/-- A last line without commands is not found. -/
theorem linesFound_empty {line : Line} (hline : line.body = []) (start : Nat) :
    linesFound start [line] = [] := by
  have hends : endsEmpty [line] = true := List.isEmpty_iff.2 hline
  rw [linesFound, if_pos hends, lineIndicesFrom_allCommands_cons]
  rfl

theorem stop_empty {line : Line} (hline : line.body = []) (count : Nat) :
    stop count [line] = count - 1 :=
  if_pos (List.isEmpty_iff.2 hline)

/-- Whether the last line has commands can be told behind any other line, and behind one that has
commands. -/
theorem endsEmpty_cons {line : Line} {rest : List Line} (h : ¬(line.body = [] ∧ rest = [])) :
    endsEmpty (line :: rest) = endsEmpty rest := by
  cases rest with
  | nil =>
    have hbody : ¬line.body.isEmpty = true := fun hbody => h ⟨List.isEmpty_iff.1 hbody, rfl⟩
    exact Bool.eq_false_iff.2 hbody
  | cons next rest => exact endsEmpty_cons_cons line next rest

/-- There is a command behind the one that opens such a line. -/
theorem one_lt_length_allCommands {line : Line} {rest : List Line}
    (h : ¬(line.body = [] ∧ rest = [])) : 1 < (allCommands (line :: rest)).length := by
  rw [allCommands_cons, List.length_append, length_commands]
  cases rest with
  | nil =>
    have hbody : 0 < line.body.length := List.length_pos_iff.2 fun hbody => h ⟨hbody, rfl⟩
    omega
  | cons next rest =>
    have hnext : 0 < (allCommands (next :: rest)).length := Nat.succ_pos _
    omega

/-- Any other line is found. -/
theorem linesFound_cons {line : Line} {rest : List Line} (h : ¬(line.body = [] ∧ rest = []))
    (start : Nat) : linesFound start (line :: rest) =
      start :: linesFound (start + line.commands.length) rest := by
  rw [linesFound, linesFound, endsEmpty_cons h, lineIndicesFrom_allCommands_cons]
  by_cases hends : endsEmpty rest = true
  · rw [if_pos hends, if_pos hends]
    cases rest with
    | nil => cases hends
    | cons next rest =>
      rw [lineIndicesFrom_allCommands_cons, List.dropLast_cons_of_ne_nil (List.cons_ne_nil _ _)]
  · rw [if_neg hends, if_neg hends]

theorem stop_cons {line : Line} {rest : List Line} (h : ¬(line.body = [] ∧ rest = []))
    (count : Nat) : stop count (line :: rest) = stop count rest := by
  rw [stop, endsEmpty_cons h, stop]

end Line

namespace Stream

open Line

variable {α : Type}

/-! ### Steps -/

/-- Going to the next line for as long as the answer is yes: where the cursor was each time the
answer was yes, and the stream after the answer was no. -/
inductive StepsByLine : Stream α → List Nat → Stream α → Prop where
  | no {s t : Stream α} (step : s.perform .seekNextLine = (.truth false, t)) : StepsByLine s [] t
  | yes {s t u : Stream α} {ps : List Nat} (step : s.perform .seekNextLine = (.truth true, t))
      (more : StepsByLine t ps u) : StepsByLine s (t.position :: ps) u

variable {s t u : Stream α} {ps : List Nat}

theorem stepsByLine_iff_of_no (hstep : s.perform .seekNextLine = (.truth false, t)) :
    s.StepsByLine ps u ↔ ps = [] ∧ u = t := by
  constructor
  · intro h
    cases h with
    | no step =>
      rw [hstep] at step
      cases step
      exact ⟨rfl, rfl⟩
    | yes step more =>
      rw [hstep] at step
      cases step
  · intro h
    obtain ⟨rfl, rfl⟩ := h
    exact .no hstep

theorem stepsByLine_iff_of_yes (hstep : s.perform .seekNextLine = (.truth true, t)) :
    s.StepsByLine ps u ↔ ∃ qs, ps = t.position :: qs ∧ t.StepsByLine qs u := by
  constructor
  · intro h
    cases h with
    | no step =>
      rw [hstep] at step
      cases step
    | yes step more =>
      rw [hstep] at step
      cases step
      exact ⟨_, rfl, more⟩
  · intro h
    obtain ⟨qs, rfl, hmore⟩ := h
    exact .yes hstep hmore

namespace Represents

variable {front : List Command} {line : Line} {rest : List Line}

theorem front_allCommands_cons :
    front ++ allCommands (line :: rest) = (front ++ line.commands) ++ allCommands rest := by
  rw [allCommands_cons, List.append_assoc]

/-- From the start of a line the cursor lands behind the commands of the line, which is at the next
line or at the end.  The answer is whether a command follows the one landed on. -/
theorem perform_seekNextLine_line (h : s.Represents (front ++ allCommands (line :: rest)))
    (hp : s.position = front.length) :
    s.perform .seekNextLine =
      (.truth ((front ++ line.commands).length + 1 < (front ++ allCommands (line :: rest)).length),
        s.moveTo (.ofIndex (front ++ allCommands (line :: rest))
          (front ++ line.commands).length)) := by
  have hopen : (front ++ allCommands (line :: rest))[s.position]? =
      some (.lineInfo line.ended) := by
    rw [hp, List.getElem?_append_right (Nat.le_refl _), Nat.sub_self]
    rfl
  have hnext : s.position + (1 + line.ended.lengthInCommands.toNat) =
      (front ++ line.commands).length := by
    rw [hp, line.toNat_length_ended, ← line.length_commands, List.length_append]
  have hle : (front ++ line.commands).length ≤ (front ++ allCommands (line :: rest)).length := by
    rw [front_allCommands_cons]
    exact (List.sublist_append_left _ _).length_le
  rw [perform, h.seekNextLine_eq, hopen]
  dsimp only
  rw [hnext, if_neg (Nat.not_lt.2 hle)]
  rfl

/-- The steps from the start of a line on. -/
theorem stepsByLine_front (h : s.Represents (front ++ allCommands (line :: rest)))
    (hp : s.position = front.length) :
    s.StepsByLine ps t ↔
      ps = linesFound (front ++ line.commands).length rest ∧
        t = s.moveTo (.ofIndex (front ++ allCommands (line :: rest))
          (stop (front ++ allCommands (line :: rest)).length rest)) := by
  -- the induction is on the lines behind the one that the cursor is at
  induction rest generalizing s front line ps with
  | nil =>
    have hstep := h.perform_seekNextLine_line hp
    have hend : front ++ allCommands [line] = front ++ line.commands := by
      rw [allCommands_cons, ← List.append_assoc]
      exact List.append_nil _
    rw [hend, decide_eq_false (by omega)] at hstep
    rw [hend, stepsByLine_iff_of_no hstep]
    rfl
  | cons next rest ih =>
    have hstep := h.perform_seekNextLine_line hp
    rw [front_allCommands_cons] at h hstep ⊢
    have hlength : ((front ++ line.commands) ++ allCommands (next :: rest)).length =
        (front ++ line.commands).length + (allCommands (next :: rest)).length :=
      List.length_append
    by_cases hlast : next.body = [] ∧ rest = []
    · obtain ⟨hbody, rfl⟩ := hlast
      have hone : (allCommands [next]).length = 1 := by
        rw [allCommands_cons, List.length_append, length_commands, hbody]
        rfl
      rw [hone] at hlength
      rw [hlength, decide_eq_false (Nat.lt_irrefl _)] at hstep
      rw [stepsByLine_iff_of_no hstep, linesFound_empty hbody, stop_empty hbody, hlength]
      rfl
    · have hmore := one_lt_length_allCommands hlast
      rw [decide_eq_true (by omega)] at hstep
      have hle : (front ++ line.commands).length ≤
          ((front ++ line.commands) ++ allCommands (next :: rest)).length := by
        omega
      -- the rest of the way starts at the next line
      have hnext (qs : List Nat) := @ih _ qs _ next (h.moveTo hle) rfl
      rw [stepsByLine_iff_of_yes hstep, linesFound_cons hlast, stop_cons hlast,
        ← List.length_append]
      constructor
      · intro hsteps
        obtain ⟨qs, rfl, hqs⟩ := hsteps
        obtain ⟨rfl, rfl⟩ := (hnext qs).1 hqs
        exact ⟨rfl, rfl⟩
      · intro hfound
        obtain ⟨rfl, rfl⟩ := hfound
        exact ⟨_, rfl, (hnext _).2 ⟨rfl, rfl⟩⟩

/-- **Stepping by line finds all lines but a last line without commands.**  On a header and lines,
from the command that opens the first line on, the answer is yes at the lines behind it, in order
and once each, and then the cursor is at the end.  But if there is more than one line, and the last
has no commands of its own, then the answer is no when the cursor stands on that line. -/
theorem stepsByLine_iff {header : Command} {lines : List Line}
    (h : s.Represents (header :: allCommands lines)) (hheader : header.kind ≠ .lineInfo)
    (hlines : lines ≠ []) (hp : s.position = 1) :
    let cs := header :: allCommands lines
    let later := (lineIndicesFrom 0 cs).tail
    s.StepsByLine ps t ↔
      if endsEmpty lines.tail then
        ps = later.dropLast ∧ t = s.moveTo (.ofIndex cs (cs.length - 1))
      else ps = later ∧ t = s.moveTo (.ofIndex cs cs.length) := by
  intro cs later
  cases lines with
  | nil => exact absurd rfl hlines
  | cons line rest =>
    have hlater : later = lineIndicesFrom (1 + line.commands.length) (allCommands rest) := by
      have hindices : lineIndicesFrom 0 cs = lineIndicesFrom 1 (allCommands (line :: rest)) := by
        rw [lineIndicesFrom, List.findIdxs_cons, if_neg (by simpa using hheader)]
        rfl
      show (lineIndicesFrom 0 cs).tail = _
      rw [hindices, lineIndicesFrom_allCommands_cons]
      rfl
    have hfront : ([header] ++ line.commands).length = 1 + line.commands.length := by
      rw [List.length_append, List.length_singleton]
    have hsteps : s.StepsByLine ps t ↔ ps = linesFound ([header] ++ line.commands).length rest ∧
        t = s.moveTo (.ofIndex cs (stop cs.length rest)) := stepsByLine_front h hp
    rw [hfront, linesFound, stop, ← hlater] at hsteps
    rw [hsteps, List.tail_cons]
    by_cases hends : endsEmpty rest = true
    · rw [if_pos hends, if_pos hends, if_pos hends]
    · rw [if_neg hends, if_neg hends, if_neg hends]

end Represents

/-- Three lines, of which the last two are without commands.  The second is found at index 3, and
the steps end on the third. -/
theorem stepsByLine_iff_three :
    let lines : List Line :=
      [⟨{}, [.toggleBold], by decide, by decide⟩, ⟨{}, [], by decide, by decide⟩,
        ⟨{}, [], by decide, by decide⟩]
    let cs := .blockInfo {} :: allCommands lines
    let s : Stream Unit := ((ofConfig {}).run (cs.map .write ++ [.seek 1])).2
    s.Represents cs ∧ s.position = 1 ∧ lineIndicesFrom 0 cs = [1, 3, 4] ∧
      s.StepsByLine [3] (s.moveTo (.ofIndex cs 4)) := by
  intro lines cs s
  have hreached : s.Reached cs := ⟨{}, cs.map .write ++ [.seek 1], by decide, rfl, by decide⟩
  have h : s.Represents cs := hreached.represents
  have hindices : lineIndicesFrom 0 cs = [1, 3, 4] := by decide
  exact ⟨h, rfl, hindices,
    (h.stepsByLine_iff (by decide) (by decide) rfl).2 ⟨by rw [hindices]; rfl, rfl⟩⟩

/-- **A last line without commands is missed.**  The stream has two lines without commands, at the
indices 1 and 2.  From the first, the step lands on the second and answers no. -/
theorem not_stepsByLine_two_empty :
    let cs : List Command := [.blockInfo {}, .lineInfo {}, .lineInfo {}]
    let s : Stream Unit := ((ofConfig {}).run (cs.map .write ++ [.seek 1])).2
    s.Reached cs ∧ s.position = 1 ∧ (lineIndicesFrom 0 cs).tail = [2] ∧
      s.perform .seekNextLine = (.truth false, s.moveTo (.ofIndex cs 2)) ∧
      ¬∃ t, s.StepsByLine (lineIndicesFrom 0 cs).tail t := by
  intro cs s
  have hreached : s.Reached cs := ⟨{}, cs.map .write ++ [.seek 1], by decide, rfl, by decide⟩
  have hindices : (lineIndicesFrom 0 cs).tail = [2] := by decide
  have hstep : s.perform .seekNextLine = (.truth false, s.moveTo (.ofIndex cs 2)) := by rfl
  refine ⟨hreached, rfl, hindices, hstep, ?_⟩
  intro hsteps
  obtain ⟨t, ht⟩ := hsteps
  rw [hindices, stepsByLine_iff_of_no hstep] at ht
  cases ht.1

end Stream

end StyledText
