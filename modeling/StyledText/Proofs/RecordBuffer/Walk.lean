import StyledText.Proofs.RecordBuffer.Layout
import StyledText.Stream.Lines

/-!
# Walking over records that were written

On a buffer that holds commands, a walk that starts at the place of an index ends at the place of an
index, and which one it is can be told from the indices and the commands alone.  So every walk of
the buffer has a counterpart on lists of commands, where **the bytes no longer occur**:

* `walk_ofIndex`, `skipFrom_ofIndex`, `seekFrom_ofIndex` — passing a number of records adds to the
  index, and seeking reaches the index sought from every place.
* `walkToKind_ofIndex` — scanning for a kind stops at the first command of the kind.
* `followLines_ofIndex`, `placeOfLine_ofIndex` — the chain of lines is that of
  `Command.followLines`.
-/

namespace StyledText.Command

/-! ### The chain of lines in a list of commands -/

/-- The line that the command of an index opens. -/
def lineInfoAt (cs : List Command) (p : Nat) : Except StreamError LineInfo :=
  match cs[p]? with
  | none => .error .endOfStream
  | some (.lineInfo info) => .ok info
  | some c => .error (.kindMismatch .lineInfo c.kind p)

/-- The index `n` lines on in the chain of lines. -/
def followLines (cs : List Command) : Nat → Nat → Except StreamError Nat
  | 0, p => .ok p
  | n + 1, p =>
    match lineInfoAt cs p with
    | .error e => .error e
    | .ok info =>
      let next := p + (1 + info.lengthInCommands.toNat)
      if cs.length < next then .error (.indexOutOfRange next cs.length) else followLines cs n next

/-- The index behind the command that opens a line. -/
def indexInLine (cs : List Command) (line : Nat) : Except StreamError Nat :=
  if cs.length < 1 then .error (.indexOutOfRange 1 cs.length)
  else
    match followLines cs line 1 with
    | .error e => .error e
    | .ok start => (lineInfoAt cs start).map fun _ => start + 1

theorem eq_lineInfo_of_kind {c : Command} (h : c.kind = .lineInfo) :
    ∃ info, c = .lineInfo info := by
  cases c with
  | lineInfo info => exact ⟨info, rfl⟩
  | _ => cases h

/-- A line is opened at an index exactly when the command there opens one. -/
theorem lineInfoAt_eq_ok_iff {cs : List Command} {p : Nat} {info : LineInfo} :
    lineInfoAt cs p = .ok info ↔ cs[p]? = some (.lineInfo info) := by
  constructor
  · intro h
    unfold lineInfoAt at h
    split at h
    · cases h
    · rename_i hp
      cases h
      exact hp
    · cases h
  · intro h
    rw [lineInfoAt, h]

end StyledText.Command

namespace StyledText.RecordBuffer.Holds

open Command

variable {b : RecordBuffer} {cs : List Command} {p : Nat}

/-! ### Passing records -/

/-- There is a place behind the one of an index exactly when a command stands there. -/
theorem next?_ofIndex (h : b.Holds cs) :
    b.next? (.ofIndex cs p) = .ok (if p < cs.length then some (.ofIndex cs (p + 1)) else none) := by
  rw [next?, h.kindAt?_ofIndex]
  by_cases hp : p < cs.length
  · have hget := List.getElem?_eq_getElem hp
    rw [if_pos hp, hget, ← Cursor.past_ofIndex hget]
    rfl
  · rw [if_neg hp, List.getElem?_eq_none (Nat.le_of_not_lt hp)]
    rfl

/-- Passing `n` records adds `n` to the index. -/
theorem walk_ofIndex (h : b.Holds cs) {n : Nat} (hn : p + n ≤ cs.length) :
    b.walk n (.ofIndex cs p) = { place := .ofIndex cs (p + n) } := by
  induction n generalizing p with
  | zero => rfl
  | succ n ih =>
    have hget := List.getElem?_eq_getElem (show p < cs.length by omega)
    have hnext := ih (p := p + 1) (by omega)
    rw [show p + 1 + n = p + (n + 1) from by omega] at hnext
    simp only [walk, h.kindAt_ofIndex hget, Cursor.past_ofIndex hget, hnext]

/-- Skipping refuses to pass the end, and otherwise adds to the index. -/
theorem skipFrom_ofIndex (h : b.Holds cs) (n : Nat) :
    b.skipFrom (.ofIndex cs p) n =
      if cs.length < p + n then
        { place := .ofIndex cs p, fault := some (.indexOutOfRange (p + n) cs.length) }
      else { place := .ofIndex cs (p + n) } := by
  simp only [skipFrom, h.count_eq, Cursor.index_ofIndex]
  by_cases hn : cs.length < p + n
  · rw [if_pos hn, if_pos hn]
  · rw [if_neg hn, if_neg hn, h.walk_ofIndex (by omega)]

/-- **Seeking reaches the index sought**, whether it goes on from the cursor or starts again. -/
theorem seekFrom_ofIndex (h : b.Holds cs) (index : Nat) :
    b.seekFrom (.ofIndex cs p) index =
      if cs.length < index then
        { place := .ofIndex cs p, fault := some (.indexOutOfRange index cs.length) }
      else { place := .ofIndex cs index } := by
  rw [seekFrom, h.count_eq]
  by_cases hi : cs.length < index
  · rw [if_pos hi, if_pos hi]
  · rw [if_neg hi, if_neg hi]
    show b.skipFrom (if index < p then {} else .ofIndex cs p)
      (index - (if index < p then ({} : Cursor) else .ofIndex cs p).index) = _
    by_cases hback : index < p
    · -- the cursor is past the target: the walk starts at the first record
      rw [if_pos hback, ← Cursor.ofIndex_zero cs, h.skipFrom_ofIndex,
        Cursor.index_ofIndex, Nat.sub_zero, Nat.zero_add, if_neg hi]
    · rw [if_neg hback, h.skipFrom_ofIndex, Cursor.index_ofIndex, Nat.add_sub_cancel' (by omega),
        if_neg hi]

/-- Scanning for a kind stops at the first command of the kind, or after `n` commands. -/
theorem walkToKind_ofIndex (h : b.Holds cs) (goal : Kind) {n : Nat} (hn : p + n ≤ cs.length) :
    b.walkToKind goal n (.ofIndex cs p) =
      { place := .ofIndex cs (p + ((cs.drop p).take n).findIdx (fun c => c.kind == goal)) } := by
  induction n generalizing p with
  | zero => rfl
  | succ n ih =>
    have hp : p < cs.length := by omega
    have hget := List.getElem?_eq_getElem hp
    have hnext := ih (p := p + 1) (by omega)
    rw [List.drop_eq_getElem_cons hp, List.take_succ_cons, List.findIdx_cons]
    by_cases hkind : cs[p].kind = goal
    · have hbeq : (cs[p].kind == goal) = true := beq_iff_eq.2 hkind
      simp only [walkToKind, h.kindAt_ofIndex hget, if_pos hkind, hbeq, cond_true, Nat.add_zero]
    · have hbeq : (cs[p].kind == goal) = false := beq_eq_false_iff_ne.2 hkind
      simp only [walkToKind, h.kindAt_ofIndex hget, if_neg hkind, hbeq, cond_false,
        Cursor.past_ofIndex hget, hnext, Nat.add_assoc, Nat.add_comm 1]

/-! ### Following lines -/

/-- The place of an index opens the line that the command there opens. -/
theorem lineAt_ofIndex (h : b.Holds cs) : b.lineAt (.ofIndex cs p) = lineInfoAt cs p := by
  rw [lineAt, lineInfoAt]
  cases hp : cs[p]? with
  | none => rw [h.commandAt_ofIndex_end (List.getElem?_eq_none_iff.1 hp)]
  | some c =>
    rw [h.commandAt_ofIndex hp]
    cases c <;> rfl

/-- Passing a line is skipping its command and as many more as its length tells. -/
theorem passLine_ofIndex (h : b.Holds cs) :
    b.passLine (.ofIndex cs p) =
      match lineInfoAt cs p with
      | .error e => { place := .ofIndex cs p, fault := some e }
      | .ok info => b.skipFrom (.ofIndex cs p) (1 + info.lengthInCommands.toNat) := by
  cases hinfo : lineInfoAt cs p with
  | error e => rw [passLine, h.lineAt_ofIndex, hinfo]
  | ok info => rw [passLine, h.lineAt_ofIndex, hinfo]

/-- **The chain of lines is the same on the records and on the commands.** -/
theorem followLines_ofIndex (h : b.Holds cs) (n : Nat) :
    b.followLines n (.ofIndex cs p) = (Command.followLines cs n p).map (Cursor.ofIndex cs) := by
  induction n generalizing p with
  | zero => rfl
  | succ n ih =>
    rw [RecordBuffer.followLines, Command.followLines, h.passLine_ofIndex]
    cases lineInfoAt cs p with
    | error e => rfl
    | ok info =>
      simp only [h.skipFrom_ofIndex]
      by_cases hn : cs.length < p + (1 + info.lengthInCommands.toNat)
      · simp only [if_pos hn, Walk.toExcept]
        rfl
      · simp only [if_neg hn, Walk.toExcept, ih]

/-- Looking up a line leads to the same index from wherever the cursor stands. -/
theorem placeOfLine_ofIndex (h : b.Holds cs) (hcursor : b.cursor = .ofIndex cs p) (line : Nat) :
    b.placeOfLine line = (indexInLine cs line).map (Cursor.ofIndex cs) := by
  rw [placeOfLine, indexInLine, hcursor, h.seekFrom_ofIndex]
  by_cases hlen : cs.length < 1
  · rw [if_pos hlen, if_pos hlen]
    rfl
  · rw [if_neg hlen, if_neg hlen]
    show (b.followLines line (.ofIndex cs 1)).bind _ = _
    rw [h.followLines_ofIndex]
    cases Command.followLines cs line 1 with
    | error e => rfl
    | ok start =>
      show (b.lineAt (.ofIndex cs start)).bind _ = Except.map _ (Except.map _ (lineInfoAt cs start))
      rw [h.lineAt_ofIndex]
      cases hinfo : lineInfoAt cs start with
      | error e => rfl
      | ok info =>
        have hlt : start < cs.length :=
          (List.getElem?_eq_some_iff.1 (lineInfoAt_eq_ok_iff.1 hinfo)).1
        show (b.next? (.ofIndex cs start)).bind _ = _
        rw [h.next?_ofIndex, if_pos hlt]
        rfl

/-- The way to the next line: over the line that the cursor is at, or else to the next command that
opens one. -/
theorem walkToNextLine_ofIndex (h : b.Holds cs) (hcursor : b.cursor = .ofIndex cs p) :
    b.walkToNextLine =
      match cs[p]? with
      | none => .ok none
      | some (.lineInfo info) =>
        .ok (some (b.skipFrom (.ofIndex cs p) (1 + info.lengthInCommands.toNat)))
      | some _ =>
        let next := p + 1 + (cs.drop (p + 1)).findIdx fun c => c.kind == .lineInfo
        .ok (some { place := .ofIndex cs next }) := by
  rw [walkToNextLine, currentKind, hcursor, h.kindAt?_ofIndex]
  cases hp : cs[p]? with
  | none => rfl
  | some c =>
    have hlt : p < cs.length := (List.getElem?_eq_some_iff.1 hp).1
    have hscan : b.walkToKind .lineInfo (b.count - (p + 1)) ((Cursor.ofIndex cs p).past c.kind)
        = { place := Cursor.ofIndex cs
              (p + 1 + (cs.drop (p + 1)).findIdx fun c => c.kind == .lineInfo) } := by
      rw [Cursor.past_ofIndex hp, h.walkToKind_ofIndex _ (by rw [h.count_eq]; omega), h.count_eq,
        List.take_of_length_le (Nat.le_of_eq List.length_drop)]
    cases c with
    | lineInfo info =>
      show Except.ok (some (b.passLine (.ofIndex cs p))) = _
      rw [h.passLine_ofIndex, lineInfoAt, hp]
    | _ =>
      simp only [Option.map_some, Cursor.index_ofIndex]
      exact congrArg (fun w => Except.ok (some w)) hscan

end StyledText.RecordBuffer.Holds
