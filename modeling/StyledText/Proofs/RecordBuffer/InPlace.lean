import StyledText.Proofs.Command.Codec
import StyledText.Stream.Lines

/-!
# Moving the cursor in place

`RecordBuffer.Walk` computes where a walk ends before the cursor is moved there.  A reader does it
the other way round: it moves the cursor record by record, and a fault **leaves the cursor where the
fault was met**.  A `Move` is such a computation.  Seeking, passing lines, scanning for a line and
reading are written here as moves, one record at a time, and each is shown to end where the walk
says, on any bytes:

* `advance_eq`, `pass_eq`, `skip_eq`, `seek_eq`, `passLine_eq` — a move and its walk.
* `reaches_walkToLine` — going to a line **may end anywhere when it fails**, and
  `orBack_walkToLine` — so the cursor has to be put back.
* `scanToLine_eq`, `seekNextLine_eq` — on to the next line, also from the middle of one.
* `read_eq` — reading a command of a kind, with the kind tested on both sides of the step.
-/

namespace StyledText

open Command

/-! ### Computations that move the cursor -/

/-- A computation on a buffer that keeps what it did to the buffer when it fails. -/
structure Move (β : Type) where
  run : RecordBuffer → Except StreamError β × RecordBuffer

namespace Move

variable {β γ : Type}

instance : Monad Move where
  pure value := ⟨fun b => (.ok value, b)⟩
  bind first next := ⟨fun b =>
    match first.run b with
    | (.ok value, after) => (next value).run after
    | (.error e, after) => (.error e, after)⟩

/-- Looks at the buffer, which may fail. -/
def look (f : RecordBuffer → Except StreamError β) : Move β := ⟨fun b => (f b, b)⟩

def fail (e : StreamError) : Move β := ⟨fun b => (.error e, b)⟩

def here : Move Cursor := ⟨fun b => (.ok b.cursor, b)⟩

def count : Move Nat := ⟨fun b => (.ok b.count, b)⟩

def goTo (place : Cursor) : Move Unit := ⟨fun b => (.ok (), b.moveTo place)⟩

/-- Puts the cursor back to where it was before if the computation fails. -/
def orBack (m : Move β) : Move β := ⟨fun b =>
  match m.run b with
  | (.ok value, after) => (.ok value, after)
  | (.error e, after) => (.error e, after.moveTo b.cursor)⟩

@[simp] theorem run_pure (value : β) (b : RecordBuffer) :
    (pure value : Move β).run b = (.ok value, b) := rfl

@[simp] theorem run_bind (m : Move β) (next : β → Move γ) (b : RecordBuffer) :
    (m >>= next).run b = match m.run b with
      | (.ok value, after) => (next value).run after
      | (.error e, after) => (.error e, after) := rfl

@[simp] theorem run_look (f : RecordBuffer → Except StreamError β) (b : RecordBuffer) :
    (look f).run b = (f b, b) := rfl

@[simp] theorem run_fail (e : StreamError) (b : RecordBuffer) :
    (fail e : Move β).run b = (.error e, b) := rfl

@[simp] theorem run_here (b : RecordBuffer) : here.run b = (.ok b.cursor, b) := rfl

@[simp] theorem run_count (b : RecordBuffer) : count.run b = (.ok b.count, b) := rfl

@[simp] theorem run_goTo (place : Cursor) (b : RecordBuffer) :
    (goTo place).run b = (.ok (), b.moveTo place) := rfl

@[simp] theorem run_ite (p : Prop) [Decidable p] (m n : Move β) (b : RecordBuffer) :
    (if p then m else n).run b = if p then m.run b else n.run b := by
  by_cases hp : p
  · rw [if_pos hp, if_pos hp]
  · rw [if_neg hp, if_neg hp]

/-! ### One record at a time -/

/-- Passes the record at the cursor: whether there was one. -/
def advance : Move Bool := do
  match ← look (·.currentKind) with
  | none => return false
  | some kind =>
    goTo ((← here).past kind)
    return true

/-- Passes `n` records. -/
def pass : Nat → Move Unit
  | 0 => return ()
  | n + 1 => do
    let _ ← advance
    pass n

/-- Passes `n` records, which must not lead beyond the end. -/
def skip (n : Nat) : Move Unit := do
  let target := (← here).index + n
  let count ← count
  if count < target then fail (.indexOutOfRange target count) else pass n

/-- Goes to the record of an index, from the first record if the cursor is already past it. -/
def seek (index : Nat) : Move Unit := do
  let count ← count
  if count < index then fail (.indexOutOfRange index count)
  else
    if index < (← here).index then goTo {}
    skip (index - (← here).index)

/-- Goes to the record of an index: its kind, `none` at the end. -/
def seekKind (index : Nat) : Move (Option Kind) := do
  seek index
  look (·.currentKind)

/-- Passes the line that starts at the cursor. -/
def passLine : Move Unit := do
  let info ← look fun b => b.lineAt b.cursor
  skip (1 + info.lengthInCommands.toNat)

def passLines : Nat → Move Unit
  | 0 => return ()
  | n + 1 => do
    passLine
    passLines n

/-- Goes behind the command that opens a line. -/
def walkToLine (line : Nat) : Move Unit := do
  seek 1
  passLines line
  let _ ← look fun b => b.lineAt b.cursor
  let _ ← advance
  return ()

/-- Passes records until the cursor is at a line or at the end, `n` records at most. -/
def scanToLine : Nat → Move Unit
  | 0 => return ()
  | n + 1 => do
    if ← advance then
      if (← look (·.currentKind)) = some .lineInfo then return () else scanToLine n

/-- Goes on from a record of a kind: over the line if it opens one, and else record by record, of
which there are no more than all. -/
def leave (kind : Kind) : Move Unit := do
  if kind = .lineInfo then passLine else scanToLine (← count)

/-- Whether a record follows the one at the cursor. -/
def isFollowed : Move Bool := return (← here).index + 1 < (← count)

/-- Goes to the next line or to the end: whether a record follows the one that is then at the
cursor. -/
def seekNextLine : Move Bool := do
  match ← look (·.currentKind) with
  | none => return false
  | some kind =>
    leave kind
    isFollowed

/-! ### Reading -/

def readCommand : Move Command := do
  let c ← look (·.current)
  let _ ← advance
  return c

/-- Reads a command whose tag is that of a kind. -/
def take (expected : Kind) : Move Command := do
  match ← look (·.currentKind) with
  | none => fail .endOfStream
  | some found =>
    if found ≠ expected then fail (.kindMismatch expected found (← here).index) else readCommand

/-- Reads a command of a kind, and tests the command once more when the cursor has passed it. -/
def read (expected : Kind) : Move Command := do
  let index := (← here).index
  let c ← take expected
  if c.kind = expected then return c else fail (.kindMismatch expected c.kind index)

end Move

/-! ### Moves and walks -/

/-- What a walk answers when the cursor follows it. -/
def Walk.settle (w : Walk) (b : RecordBuffer) : Except StreamError Unit × RecordBuffer :=
  (w.toExcept.map fun _ => (), b.moveTo w.place)

namespace RecordBuffer

variable (b : RecordBuffer) (place start : Cursor)

theorem kindAt_moveTo : (b.moveTo place).kindAt start = b.kindAt start := rfl

theorem lineAt_moveTo : (b.moveTo place).lineAt start = b.lineAt start := rfl

/-- Where a walk leads does not depend on the cursor. -/
theorem walk_moveTo (n : Nat) : (b.moveTo place).walk n start = b.walk n start := by
  induction n generalizing start with
  | zero => rfl
  | succ n ih =>
    rw [walk, walk, kindAt_moveTo]
    cases b.kindAt start with
    | error e => rfl
    | ok kind => exact ih (start.past kind)

theorem skipFrom_moveTo (n : Nat) : (b.moveTo place).skipFrom start n = b.skipFrom start n := by
  show (if b.count < start.index + n then _ else (b.moveTo place).walk n start) = _
  rw [walk_moveTo]
  rfl

theorem walkToKind_moveTo (goal : Kind) (n : Nat) :
    (b.moveTo place).walkToKind goal n start = b.walkToKind goal n start := by
  induction n generalizing start with
  | zero => rfl
  | succ n ih =>
    rw [walkToKind, walkToKind, kindAt_moveTo]
    cases b.kindAt start with
    | error e => rfl
    | ok kind =>
      dsimp only
      rw [ih]

theorem passLine_moveTo : (b.moveTo place).passLine start = b.passLine start := by
  rw [RecordBuffer.passLine, RecordBuffer.passLine, lineAt_moveTo]
  cases b.lineAt start with
  | error e => rfl
  | ok info => exact b.skipFrom_moveTo place start (1 + info.lengthInCommands.toNat)

theorem followLines_moveTo (n : Nat) :
    (b.moveTo place).followLines n start = b.followLines n start := by
  induction n generalizing start with
  | zero => rfl
  | succ n ih => simp only [followLines, passLine_moveTo, ih]

/-- Before the end there is a kind at the cursor, or a fault. -/
theorem currentKind_of_lt {b : RecordBuffer} (h : b.cursor.index < b.count) :
    b.currentKind = (b.kindAt b.cursor).map some := by
  have hend : b.isEnd b.cursor = false := decide_eq_false (Nat.not_le.2 h)
  rw [currentKind, kindAt?, hend]
  rfl

/-- At the end there is none. -/
theorem currentKind_of_le {b : RecordBuffer} (h : b.count ≤ b.cursor.index) :
    b.currentKind = .ok none := by
  have hend : b.isEnd b.cursor = true := decide_eq_true h
  rw [currentKind, kindAt?, hend]
  rfl

theorem lt_of_currentKind {b : RecordBuffer} {kind : Kind} (h : b.currentKind = .ok (some kind)) :
    b.cursor.index < b.count := by
  apply Nat.lt_of_not_le
  intro hle
  rw [currentKind_of_le hle] at h
  cases h

/-- A command that can be read begins with the tag of its kind. -/
theorem currentKind_of_current {b : RecordBuffer} {c : Command} (h : b.current = .ok c) :
    b.currentKind = .ok (some c.kind) := by
  rw [current, commandAt] at h
  by_cases hend : b.isEnd b.cursor = true
  · rw [if_pos hend] at h
    cases h
  · rw [if_neg hend] at h
    by_cases hlength : b.bytes.length < b.cursor.offset
    · rw [if_pos hlength] at h
      cases h
    · rw [if_neg hlength] at h
      obtain ⟨rest, hdrop⟩ := decode_eq_ok_iff.1 h
      have htag : b.bytes[b.cursor.offset]? = some c.kind.tag := by
        rw [← List.head?_drop, hdrop]
        rfl
      rw [currentKind, kindAt?, if_neg hend, kindAt, htag]
      simp only [Kind.ofTag?_tag]
      rfl

end RecordBuffer

namespace Move

open RecordBuffer

variable {β γ : Type} {b : RecordBuffer}

/-! ### Passing records -/

theorem advance_of_kind {kind : Kind} (h : b.currentKind = .ok (some kind)) :
    advance.run b = (.ok true, b.moveTo (b.cursor.past kind)) := by
  simp only [advance, run_bind, run_look, h, run_here, run_goTo, run_pure]

theorem advance_of_none (h : b.currentKind = .ok none) : advance.run b = (.ok false, b) := by
  simp only [advance, run_bind, run_look, h, run_pure]

theorem advance_of_error {e : StreamError} (h : b.currentKind = .error e) :
    advance.run b = (.error e, b) := by
  simp only [advance, run_bind, run_look, h]

/-- Passing a record moves nothing when it fails, and nothing at the end. -/
theorem advance_eq (b : RecordBuffer) :
    advance.run b = match b.next? b.cursor with
      | .error e => (.error e, b)
      | .ok none => (.ok false, b)
      | .ok (some place) => (.ok true, b.moveTo place) := by
  rw [next?, ← currentKind]
  cases hkind : b.currentKind with
  | error e => exact advance_of_error hkind
  | ok kind =>
    cases kind with
    | none => exact advance_of_none hkind
    | some kind => exact advance_of_kind hkind

/-- Passing records one by one ends where the walk does, as long as there are that many. -/
theorem pass_eq {n : Nat} (hn : b.cursor.index + n ≤ b.count) :
    (pass n).run b = (b.walk n b.cursor).settle b := by
  induction n generalizing b with
  | zero => rfl
  | succ n ih =>
    have hkind := currentKind_of_lt (b := b) (by omega)
    rw [walk, pass, run_bind]
    cases hat : b.kindAt b.cursor with
    | error e =>
      rw [hat] at hkind
      rw [advance_of_error hkind]
      rfl
    | ok kind =>
      rw [hat] at hkind
      have hle : (b.cursor.past kind).index + n ≤ b.count := by
        show b.cursor.index + 1 + n ≤ b.count
        omega
      have hrest := ih (b := b.moveTo (b.cursor.past kind)) hle
      rw [walk_moveTo] at hrest
      rw [advance_of_kind hkind]
      exact hrest

theorem skip_eq (n : Nat) (b : RecordBuffer) :
    (skip n).run b = (b.skipFrom b.cursor n).settle b := by
  simp only [skip, skipFrom, run_bind, run_here, run_count, run_ite, run_fail]
  by_cases hn : b.count < b.cursor.index + n
  · rw [if_pos hn, if_pos hn]
    rfl
  · rw [if_neg hn, if_neg hn]
    exact pass_eq (Nat.le_of_not_lt hn)

/-- Seeking in place ends where the walk does, also when it starts again at the first record. -/
theorem seek_eq (index : Nat) (b : RecordBuffer) :
    (seek index).run b = (b.seekFrom b.cursor index).settle b := by
  simp only [seek, seekFrom, run_bind, run_here, run_count, run_ite, run_fail]
  by_cases hi : b.count < index
  · rw [if_pos hi, if_pos hi]
    rfl
  · rw [if_neg hi, if_neg hi]
    by_cases hback : index < b.cursor.index
    · have hskip := skip_eq index (b.moveTo {})
      rw [skipFrom_moveTo] at hskip
      simp only [if_pos hback, run_goTo]
      exact hskip
    · simp only [if_neg hback]
      exact skip_eq (index - b.cursor.index) b

/-! ### Lines -/

theorem passLine_eq (b : RecordBuffer) : passLine.run b = (b.passLine b.cursor).settle b := by
  simp only [passLine, RecordBuffer.passLine, run_bind, run_look]
  cases b.lineAt b.cursor with
  | error e => rfl
  | ok info => exact skip_eq (1 + info.lengthInCommands.toNat) b

/-- The move ends at the place that was to be reached, or fails with the fault that is told and then
**ends anywhere**. -/
def Reaches (m : Move Unit) (b : RecordBuffer) : Except StreamError Cursor → Prop
  | .ok place => m.run b = (.ok (), b.moveTo place)
  | .error e => ∃ place, m.run b = (.error e, b.moveTo place)

theorem reaches_of_settle {m : Move Unit} {w : Walk} (h : m.run b = w.settle b) :
    m.Reaches b w.toExcept := by
  rw [Walk.settle] at h
  cases hw : w.fault with
  | none =>
    rw [Walk.toExcept, hw] at h ⊢
    exact h
  | some e =>
    rw [Walk.toExcept, hw] at h ⊢
    exact ⟨w.place, h⟩

/-- One move after another goes from place to place. -/
theorem Reaches.bind {m next : Move Unit} {goal : Except StreamError Cursor}
    {f : Cursor → Except StreamError Cursor} (h : m.Reaches b goal)
    (hnext : ∀ place, next.Reaches (b.moveTo place) (f place)) :
    (m >>= fun _ => next).Reaches b (goal >>= f) := by
  cases goal with
  | error e =>
    obtain ⟨place, hrun⟩ := h
    exact ⟨place, by rw [run_bind, hrun]⟩
  | ok place =>
    have hrun : m.run b = (.ok (), b.moveTo place) := h
    have hstep : (m >>= fun _ => next).run b = next.run (b.moveTo place) := by
      rw [run_bind, hrun]
    have hgoal := hnext place
    show (m >>= fun _ => next).Reaches b (f place)
    cases hf : f place with
    | error e =>
      rw [hf] at hgoal
      obtain ⟨last, hlast⟩ := hgoal
      exact ⟨last, hstep.trans hlast⟩
    | ok last =>
      rw [hf] at hgoal
      exact hstep.trans hgoal

/-- Looking at the buffer moves nothing. -/
theorem reaches_look_bind {f : RecordBuffer → Except StreamError β} {next : β → Move Unit}
    {g : β → Except StreamError Cursor} (hnext : ∀ value, (next value).Reaches b (g value)) :
    (look f >>= next).Reaches b (f b >>= g) := by
  have hrun : (look f >>= next).run b = match f b with
      | .ok value => (next value).run b
      | .error e => (.error e, b) := by
    rw [run_bind, run_look]
    cases f b <;> rfl
  cases hf : f b with
  | error e =>
    rw [hf] at hrun
    exact ⟨b.cursor, hrun⟩
  | ok value =>
    rw [hf] at hrun
    have hgoal := hnext value
    show (look f >>= next).Reaches b (g value)
    cases hg : g value with
    | error e =>
      rw [hg] at hgoal
      obtain ⟨last, hlast⟩ := hgoal
      exact ⟨last, hrun.trans hlast⟩
    | ok last =>
      rw [hg] at hgoal
      exact hrun.trans hgoal

/-- Passing one record ends behind it, or at the end. -/
theorem reaches_advance (b : RecordBuffer) :
    (advance >>= fun _ => pure ()).Reaches b
      (b.next? b.cursor >>= fun next => pure (next.getD b.cursor)) := by
  have hadvance := advance_eq b
  cases hnext : b.next? b.cursor with
  | error e =>
    rw [hnext] at hadvance
    exact ⟨b.cursor, by rw [run_bind, hadvance]; rfl⟩
  | ok next =>
    rw [hnext] at hadvance
    show (advance >>= fun _ => pure ()).run b = (.ok (), b.moveTo (next.getD b.cursor))
    cases next with
    | none => rw [run_bind, hadvance]; rfl
    | some place => rw [run_bind, hadvance]; rfl

/-- Passing lines follows the chain of lines. -/
theorem reaches_passLines (n : Nat) (b : RecordBuffer) :
    (passLines n).Reaches b (b.followLines n b.cursor) := by
  induction n generalizing b with
  | zero => rfl
  | succ n ih =>
    have hfollow : b.followLines (n + 1) b.cursor =
        (b.passLine b.cursor).toExcept >>= b.followLines n := by
      rw [followLines]
      cases (b.passLine b.cursor).toExcept <;> rfl
    rw [hfollow]
    apply Reaches.bind (reaches_of_settle (passLine_eq b))
    intro place
    have hrest := ih (b.moveTo place)
    rw [followLines_moveTo] at hrest
    exact hrest

/-- Going to a line ends behind the command that opens it.  When it fails, it may have gone back to
the first record and passed some lines. -/
theorem reaches_walkToLine (line : Nat) (b : RecordBuffer) :
    (walkToLine line).Reaches b (b.placeOfLine line) := by
  apply Reaches.bind (reaches_of_settle (seek_eq 1 b))
  intro first
  have hlines := reaches_passLines line (b.moveTo first)
  rw [followLines_moveTo] at hlines
  apply hlines.bind
  intro start
  apply reaches_look_bind (b := b.moveTo start)
  intro info
  exact reaches_advance (b.moveTo start)

/-- So the cursor is put back on a fault, and the buffer is then as it was. -/
theorem orBack_walkToLine (line : Nat) (b : RecordBuffer) :
    (walkToLine line).orBack.run b = match b.placeOfLine line with
      | .error e => (.error e, b)
      | .ok next => (.ok (), b.moveTo next) := by
  have hwalk := reaches_walkToLine line b
  cases hplace : b.placeOfLine line with
  | error e =>
    rw [hplace] at hwalk
    obtain ⟨place, hrun⟩ := hwalk
    simp only [orBack, hrun]
    rfl
  | ok next =>
    rw [hplace] at hwalk
    simp only [orBack, show (walkToLine line).run b = (.ok (), b.moveTo next) from hwalk]

/-! ### The next line -/

/-- At the end there is nothing to scan. -/
theorem scanToLine_of_none (n : Nat) (h : b.currentKind = .ok none) :
    (scanToLine n).run b = (.ok (), b) := by
  cases n with
  | zero => rfl
  | succ n =>
    simp only [scanToLine, run_bind, advance_of_none h, Bool.false_eq_true, if_false, run_pure]

/-- Scanning for a line ends where the walk does, when no fewer records may be passed than there
are. -/
theorem scanToLine_eq {kind : Kind} {m n : Nat} (hkind : b.currentKind = .ok (some kind))
    (hm : b.cursor.index + 1 + m = b.count) (hn : m < n) :
    (scanToLine n).run b = (b.walkToKind .lineInfo m (b.cursor.past kind)).settle b := by
  -- the induction is on the records behind the one at the cursor
  induction m generalizing b kind n with
  | zero =>
    obtain ⟨n, rfl⟩ : ∃ k, n = k + 1 := ⟨n - 1, by omega⟩
    have hend : (b.moveTo (b.cursor.past kind)).currentKind = .ok none :=
      currentKind_of_le (Nat.le_of_eq hm.symm)
    simp only [scanToLine, run_bind, advance_of_kind hkind, if_true, run_look, hend, run_ite]
    rw [if_neg (by simp), scanToLine_of_none n hend]
    rfl
  | succ m ih =>
    obtain ⟨n, rfl⟩ : ∃ k, n = k + 1 := ⟨n - 1, by omega⟩
    have hlt : (b.cursor.past kind).index < b.count := by
      show b.cursor.index + 1 < b.count
      omega
    have hat : (b.moveTo (b.cursor.past kind)).currentKind =
        (b.kindAt (b.cursor.past kind)).map some :=
      currentKind_of_lt (b := b.moveTo (b.cursor.past kind)) hlt
    simp only [scanToLine, run_bind, advance_of_kind hkind, if_true, run_look, walkToKind]
    cases hnext : b.kindAt (b.cursor.past kind) with
    | error e =>
      rw [hnext] at hat
      rw [hat]
      rfl
    | ok next =>
      rw [hnext] at hat
      rw [hat]
      simp only [Except.map, run_ite, Option.some.injEq]
      by_cases hline : next = .lineInfo
      · rw [if_pos hline, if_pos hline]
        rfl
      · rw [if_neg hline, if_neg hline]
        have hcount : b.cursor.index + 1 + 1 + m = b.count := by omega
        have hrest := ih (b := b.moveTo (b.cursor.past kind)) (n := n) hat hcount (by omega)
        rw [walkToKind_moveTo] at hrest
        exact hrest

/-- Going to the next line ends where the walk does. -/
theorem seekNextLine_eq (b : RecordBuffer) :
    seekNextLine.run b = match b.walkToNextLine with
      | .error e => (.error e, b)
      | .ok none => (.ok false, b)
      | .ok (some w) =>
        match w.fault with
        | some e => (.error e, b.moveTo w.place)
        | none => (.ok (w.place.index + 1 < b.count), b.moveTo w.place) := by
  have hfollowed {m : Move Unit} {w : Walk} (h : m.run b = w.settle b) :
      (m >>= fun _ => isFollowed).run b = match w.fault with
        | some e => (.error e, b.moveTo w.place)
        | none => (.ok (w.place.index + 1 < b.count : Bool), b.moveTo w.place) := by
    rw [run_bind, h, Walk.settle, Walk.toExcept]
    cases w.fault <;> rfl
  rw [seekNextLine, run_bind, run_look, walkToNextLine]
  cases hkind : b.currentKind with
  | error e => rfl
  | ok kind =>
    cases kind with
    | none => rfl
    | some kind =>
      have hlt := lt_of_currentKind hkind
      have hscan : (scanToLine b.count).run b = (b.walkToKind .lineInfo
          (b.count - (b.cursor.index + 1)) (b.cursor.past kind)).settle b :=
        scanToLine_eq hkind (by omega) (by omega)
      cases kind with
      | lineInfo => exact hfollowed (passLine_eq b)
      | _ => exact hfollowed hscan

/-! ### Reading -/

theorem readCommand_eq (b : RecordBuffer) :
    readCommand.run b = match b.current with
      | .error e => (.error e, b)
      | .ok c =>
        match b.advance with
        | .error e => (.error e, b)
        | .ok (_, after) => (.ok c, after) := by
  simp only [readCommand, run_bind, run_look, RecordBuffer.advance, advance_eq]
  cases b.current with
  | error e => rfl
  | ok c =>
    dsimp only
    cases b.next? b.cursor with
    | error e => rfl
    | ok next => cases next <;> rfl

/-- The command that is read after a test of its tag is of the kind that was asked for, so the
second test never fails. -/
theorem read_eq (expected : Kind) (b : RecordBuffer) :
    (read expected).run b = match b.currentKind with
      | .error e => (.error e, b)
      | .ok none => (.error .endOfStream, b)
      | .ok (some found) =>
        if found ≠ expected then (.error (.kindMismatch expected found b.cursor.index), b)
        else readCommand.run b := by
  simp only [read, take, run_bind, run_here, run_look]
  cases hkind : b.currentKind with
  | error e => rfl
  | ok kind =>
    cases kind with
    | none => rfl
    | some found =>
      by_cases hfound : found = expected
      · simp only [hfound, ne_eq, not_true_eq_false, if_false, readCommand_eq, run_ite, run_fail]
        cases hcurrent : b.current with
        | error e => rfl
        | ok c =>
          have hc : c.kind = expected := by
            have hsame := currentKind_of_current hcurrent
            rw [hkind] at hsame
            cases hsame
            exact hfound
          dsimp only
          cases b.advance with
          | error e => rfl
          | ok moved =>
            dsimp only
            rw [if_pos hc]
            rfl
      · simp only [ne_eq, hfound, not_false_eq_true, if_true, run_bind, run_here, run_fail]

end Move

end StyledText
