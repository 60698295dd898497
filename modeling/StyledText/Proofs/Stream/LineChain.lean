import StyledText.Proofs.Stream.Atomic

/-!
# Seeking lines by the lengths that they tell

The first line is looked for at index 1, and every other one as far behind the line before it as
that line tells.  The lengths are taken as they were written, so the way to a line can lead to a
command of another kind, to the end of the commands, or beyond it.  What seeking a line answers is
told here by **the indices at which the lines should start**, as far as there are any, and by what
is wrong at the first of them that is no start of a line.

* `Command.startOfLine?` — where a line should start, and `Command.faultAt?` — what is wrong there.
* `Command.exists_startOfLine?` — the way leads to the line or to a fault.
* `Command.indexInLine_of_start`, `Command.indexInLine_of_fault` — what is found in the two cases.
* `Stream.Reached.seekLine_told` — seeking a line from everywhere in the streams that runs leave.
-/

namespace StyledText

namespace Command

variable {cs : List Command} {line p q : Nat} {e : StreamError}

/-! ### Where lines should start -/

/-- The number of commands that a command tells to be in its line, when it opens one. -/
def lengthTold? : Command → Option Nat
  | .lineInfo info => some info.lengthInCommands.toNat
  | _ => none

/-- The index at which a line should start by the lengths that the lines before it tell.  There is
none when one of these lines is not opened where it should start. -/
def startOfLine? (cs : List Command) : Nat → Option Nat
  | 0 => some 1
  | line + 1 => do
    let start ← startOfLine? cs line
    let length ← cs[start]?.bind lengthTold?
    return start + 1 + length

/-- What is wrong at an index at which a line should start. -/
def faultAt? (cs : List Command) (p : Nat) : Option StreamError :=
  if cs.length < p then some (.indexOutOfRange p cs.length)
  else
    match cs[p]? with
    | none => some .endOfStream
    | some c => if c.kind = .lineInfo then none else some (.kindMismatch .lineInfo c.kind p)

theorem lengthTold?_eq_some_iff {c : Command} {length : Nat} :
    c.lengthTold? = some length ↔
      ∃ info, c = .lineInfo info ∧ info.lengthInCommands.toNat = length := by
  constructor
  · intro h
    cases c with
    | lineInfo info => exact ⟨info, rfl, Option.some.inj h⟩
    | _ => cases h
  · intro h
    obtain ⟨info, rfl, rfl⟩ := h
    rfl

/-- Nothing is wrong where a line is opened. -/
theorem faultAt?_eq_none_iff : faultAt? cs p = none ↔ ∃ info, cs[p]? = some (.lineInfo info) := by
  constructor
  · intro h
    rw [faultAt?] at h
    split at h
    · cases h
    · cases hp : cs[p]? with
      | none =>
        rw [hp] at h
        cases h
      | some c =>
        simp only [hp] at h
        split at h
        · rename_i hkind
          obtain ⟨info, rfl⟩ := eq_lineInfo_of_kind hkind
          exact ⟨info, rfl⟩
        · cases h
  · intro h
    obtain ⟨info, hp⟩ := h
    have hlt := (List.getElem?_eq_some_iff.1 hp).1
    rw [faultAt?, if_neg (by omega), hp]
    rfl

/-- The next line should start behind a line that is opened where it should start. -/
theorem startOfLine?_succ_eq_some_iff :
    startOfLine? cs (line + 1) = some q ↔
      ∃ p info, startOfLine? cs line = some p ∧ cs[p]? = some (.lineInfo info) ∧
        q = p + 1 + info.lengthInCommands.toNat := by
  show ((startOfLine? cs line).bind fun start =>
    (cs[start]?.bind lengthTold?).bind fun length => some (start + 1 + length)) = some q ↔ _
  simp only [Option.bind_eq_some_iff, lengthTold?_eq_some_iff]
  constructor
  · intro h
    obtain ⟨p, hp, length, ⟨c, hc, info, rfl, rfl⟩, hq⟩ := h
    exact ⟨p, info, hp, hc, (Option.some.inj hq).symm⟩
  · intro h
    obtain ⟨p, info, hp, hc, rfl⟩ := h
    exact ⟨p, hp, _, ⟨_, hc, info, rfl, rfl⟩, rfl⟩

/-- **The way leads to the line, or to a fault before it.** -/
theorem exists_startOfLine? (cs : List Command) (line : Nat) :
    ∃ j ≤ line, ∃ q, startOfLine? cs j = some q ∧ (j = line ∨ faultAt? cs q ≠ none) := by
  induction line with
  | zero => exact ⟨0, Nat.le_refl 0, 1, rfl, .inl rfl⟩
  | succ line ih =>
    obtain ⟨j, hj, q, hq, rfl | hfault⟩ := ih
    · cases hopen : faultAt? cs q with
      | none =>
        obtain ⟨info, hinfo⟩ := faultAt?_eq_none_iff.1 hopen
        exact ⟨j + 1, Nat.le_refl _, _, startOfLine?_succ_eq_some_iff.2 ⟨q, info, hq, hinfo, rfl⟩,
          .inl rfl⟩
      | some e => exact ⟨j, Nat.le_succ j, q, hq, .inr (by rw [hopen]; exact Option.some_ne_none e)⟩
    · exact ⟨j, Nat.le_succ_of_le hj, q, hq, .inr hfault⟩

/-! ### What is found there -/

/-- Within the commands and at their end, no line is opened where something is wrong. -/
theorem lineInfoAt_of_faultAt? (hp : p ≤ cs.length) (h : faultAt? cs p = some e) :
    lineInfoAt cs p = .error e := by
  rw [faultAt?, if_neg (Nat.not_lt.2 hp)] at h
  rw [lineInfoAt]
  cases hget : cs[p]? with
  | none =>
    simp only [hget] at h
    cases h
    rfl
  | some c =>
    simp only [hget] at h
    cases c with
    | lineInfo info => cases h
    | _ => cases h; rfl

/-- The index to which the lengths of the lines before a line lead, from index 1 on. -/
def wayToLine (cs : List Command) (line : Nat) : Except StreamError Nat :=
  if cs.length < 1 then .error (.indexOutOfRange 1 cs.length) else followLines cs line 1

/-- The chain of lines is followed part by part. -/
theorem followLines_add (cs : List Command) (m n p : Nat) :
    followLines cs (m + n) p = (followLines cs m p).bind (followLines cs n) := by
  induction m generalizing p with
  | zero => rw [Nat.zero_add]; rfl
  | succ m ih =>
    rw [Nat.succ_add, followLines, followLines]
    cases lineInfoAt cs p with
    | error e => rfl
    | ok info =>
      dsimp only
      split
      · rfl
      · exact ih _

theorem wayToLine_succ (cs : List Command) (line : Nat) :
    wayToLine cs (line + 1) = (wayToLine cs line).bind (followLines cs 1) := by
  rw [wayToLine, wayToLine, followLines_add]
  split <;> rfl

theorem indexInLine_eq_bind (cs : List Command) (line : Nat) :
    indexInLine cs line =
      ((wayToLine cs line).bind fun start => (lineInfoAt cs start).map fun _ => start + 1) := by
  rw [indexInLine, wayToLine]
  split
  · rfl
  · cases followLines cs line 1 <;> rfl

/-- The lengths lead to where the line should start, unless that is beyond the end. -/
theorem wayToLine_of_start (h : startOfLine? cs line = some q) :
    wayToLine cs line =
      if cs.length < q then .error (.indexOutOfRange q cs.length) else .ok q := by
  induction line generalizing q with
  | zero =>
    cases h
    rfl
  | succ line ih =>
    obtain ⟨p, info, hp, hinfo, rfl⟩ := startOfLine?_succ_eq_some_iff.1 h
    have hlt := (List.getElem?_eq_some_iff.1 hinfo).1
    rw [wayToLine_succ, ih hp, if_neg (by omega)]
    show followLines cs 1 p = _
    rw [followLines, lineInfoAt_eq_ok_iff.2 hinfo]
    dsimp only
    rw [← Nat.add_assoc]
    rfl

/-- A line that is opened where it should start is found. -/
theorem indexInLine_of_start (h : startOfLine? cs line = some q) (hopen : faultAt? cs q = none) :
    indexInLine cs line = .ok (q + 1) := by
  obtain ⟨info, hinfo⟩ := faultAt?_eq_none_iff.1 hopen
  have hlt := (List.getElem?_eq_some_iff.1 hinfo).1
  rw [indexInLine_eq_bind, wayToLine_of_start h, if_neg (by omega)]
  show (lineInfoAt cs q).map _ = _
  rw [lineInfoAt_eq_ok_iff.2 hinfo]
  rfl

/-- Where something is wrong, no line is opened. -/
theorem no_line_of_fault (h : startOfLine? cs line = some q) (hfault : faultAt? cs q = some e) :
    (wayToLine cs line).bind (lineInfoAt cs) = .error e := by
  rw [wayToLine_of_start h]
  by_cases hq : cs.length < q
  · rw [faultAt?, if_pos hq] at hfault
    cases hfault
    rw [if_pos hq]
    rfl
  · rw [if_neg hq]
    exact lineInfoAt_of_faultAt? (Nat.le_of_not_lt hq) hfault

/-- A line that is not opened keeps all lines behind it from being found. -/
theorem no_line_succ (h : (wayToLine cs line).bind (lineInfoAt cs) = .error e) :
    (wayToLine cs (line + 1)).bind (lineInfoAt cs) = .error e := by
  rw [wayToLine_succ]
  cases hway : wayToLine cs line with
  | error e' =>
    rw [hway] at h
    exact h
  | ok p =>
    rw [hway] at h
    have hinfo : lineInfoAt cs p = .error e := h
    show (followLines cs 1 p).bind _ = _
    rw [followLines, hinfo]
    rfl

/-- **A fault on the way to a line is what seeking it meets.** -/
theorem indexInLine_of_fault {j : Nat} (hj : j ≤ line) (h : startOfLine? cs j = some q)
    (hfault : faultAt? cs q = some e) : indexInLine cs line = .error e := by
  have hline : (wayToLine cs line).bind (lineInfoAt cs) = .error e := by
    induction hj with
    | refl => exact no_line_of_fault h hfault
    | step _ ih => exact no_line_succ ih
  rw [indexInLine_eq_bind]
  cases hway : wayToLine cs line with
  | error e' =>
    rw [hway] at hline
    cases hline
    rfl
  | ok start =>
    rw [hway] at hline
    have hinfo : lineInfoAt cs start = .error e := hline
    show (lineInfoAt cs start).map _ = _
    rw [hinfo]
    rfl

end Command

namespace Stream

open Command

variable {α : Type} {s : Stream α} {cs : List Command} {p : Nat}

/-- **Seeking a line goes behind the command that opens it where the lengths lead**, or tells of the
first index on the way at which no line is opened: beyond the end, at the end, or at a command of
another kind.  One of these is always the case, from wherever the line is sought, with any lengths
told, and in one go or record by record.  So where seeking succeeds, the cursor is right behind a
command that opens a line. -/
theorem Reached.seekLine_told (h : s.Reached cs) (hp : p ≤ cs.length) (line : Nat) :
    let u := s.moveTo (.ofIndex cs p)
    let result := u.perform (.seekLine line)
    u.performInPlace (.seekLine line) = result ∧
      (s.lineCount ≤ line → result = (.fault (.lineOutOfRange line s.lineCount), u)) ∧
      (line < s.lineCount →
        (∀ q, startOfLine? cs line = some q → faultAt? cs q = none →
          result = (.done, s.moveTo (.ofIndex cs (q + 1)))) ∧
        (∀ j ≤ line, ∀ q e, startOfLine? cs j = some q → faultAt? cs q = some e →
          result = (.fault e, u)) ∧
        ∃ j ≤ line, ∃ q, startOfLine? cs j = some q ∧ (j = line ∨ faultAt? cs q ≠ none)) ∧
      (result.1 = .done → ∃ q info, cs[q]? = some (.lineInfo info) ∧
        result.2 = s.moveTo (.ofIndex cs (q + 1))) := by
  intro u result
  have hu : u.Represents cs := h.represents.moveTo hp
  have hbeyond (hline : s.lineCount ≤ line) :
      result = (.fault (.lineOutOfRange line s.lineCount), u) := by
    show u.perform (.seekLine line) = _
    rw [perform, hu.seekLine_eq, if_pos (show u.lineCount ≤ line from hline)]
    rfl
  -- within the number of lines, only the commands matter
  have hresult (hline : line < s.lineCount) : result = u.orUnchanged (fun _ => .done)
      ((indexInLine cs line).map fun index => ((), u.moveTo (.ofIndex cs index))) := by
    show u.perform (.seekLine line) = _
    rw [perform, hu.seekLine_eq, if_neg (Nat.not_le.2 (show line < u.lineCount from hline))]
    cases indexInLine cs line <;> rfl
  have hfound (hline : line < s.lineCount) {q : Nat} (hq : startOfLine? cs line = some q)
      (hopen : faultAt? cs q = none) : result = (.done, s.moveTo (.ofIndex cs (q + 1))) := by
    rw [hresult hline, indexInLine_of_start hq hopen]
    rfl
  have hfault (hline : line < s.lineCount) {j q : Nat} {e : StreamError} (hj : j ≤ line)
      (hq : startOfLine? cs j = some q) (he : faultAt? cs q = some e) : result = (.fault e, u) := by
    rw [hresult hline, indexInLine_of_fault hj hq he]
    rfl
  refine ⟨performInPlace_eq u (.seekLine line), hbeyond, ?_, ?_⟩
  · intro hline
    exact ⟨fun q => hfound hline, fun j hj q e => hfault hline hj, exists_startOfLine? cs line⟩
  · intro hdone
    rcases Nat.lt_or_ge line s.lineCount with hline | hline
    · obtain ⟨j, hj, q, hq, hwhere⟩ := exists_startOfLine? cs line
      cases he : faultAt? cs q with
      | some e =>
        rw [hfault hline hj hq he] at hdone
        cases hdone
      | none =>
        obtain ⟨info, hinfo⟩ := faultAt?_eq_none_iff.1 he
        obtain rfl := hwhere.resolve_right (not_not_intro he)
        exact ⟨q, info, hinfo, congrArg Prod.snd (hfound hline hq he)⟩
    · rw [hbeyond hline] at hdone
      cases hdone

/-- Four lines and no header, so that index 1 is the second of them.  It tells of one command, and
the line behind that of none; the last one tells of more commands than there are, and no fifth line
follows. -/
theorem Reached.seekLine_told_shifted :
    let cs : List Command := [.lineInfo {}, .lineInfo { lengthInCommands := 1 }, .toggleBold,
      .lineInfo {}, .lineInfo { lengthInCommands := 4294967295 }]
    let s : Stream Unit := ((ofConfig {}).run (cs.map .write)).2
    s.Reached cs ∧ s.lineCount = 4 ∧ startOfLine? cs 1 = some 3 ∧
      s.perform (.seekLine 1) = (.done, s.moveTo (.ofIndex cs 4)) ∧
      s.perform (.seekLine 3) = (.fault (.indexOutOfRange 4294967300 5), s) ∧
      s.perform (.seekLine 4) = (.fault (.lineOutOfRange 4 4), s) := by
  intro cs s
  have hreached : s.Reached cs := ⟨{}, cs.map .write, by decide, rfl, by decide⟩
  have hcursor : s.moveTo (.ofIndex cs 5) = s := hreached.represents.moveTo_position
  have hfound := ((hreached.seekLine_told (p := 5) (by decide) 1).2.2.1 (by decide)).1 3 rfl rfl
  have hfault := ((hreached.seekLine_told (p := 5) (by decide) 3).2.2.1 (by decide)).2.1 3
    (Nat.le_refl 3) 4294967300 _ rfl rfl
  have hbeyond := (hreached.seekLine_told (p := 5) (by decide) 4).2.1 (by decide)
  rw [hcursor] at hfound hfault hbeyond
  exact ⟨hreached, by decide, rfl, hfound, hfault, hbeyond⟩

end Stream

end StyledText
