import StyledText.Proofs.Stream.Run

/-!
# Cleared streams

A stream that was cleared **cannot be told from a new one**, by whatever is done to it afterwards.
What clearing leaves behind is the count of clearings, which the marks of open lines carry along.
Nobody can look at that count: an operation compares it with that of a mark, and that is all.  It
has no bound here, so no two counts are taken for each other.

So the holder of a stream is modelled by what it can ask for, a `Request`.  It names a mark by when
it was handed the mark, and `Stream.views` is all that it gets to see.

* `perform_later` — one operation, on two streams that differ by the count of clearings, with marks
  that differ by the same.
* `views_later` — requests in a row, kept in step by that difference.
* `cleared_indistinguishable` — a stream cleared after any run, against a new one.
-/

namespace StyledText

variable {α β : Type}

/-! ### The count of clearings -/

/-- The mark, had the stream been cleared `n` times more. -/
def LineMark.later (n : Nat) (mark : LineMark) : LineMark :=
  { mark with generation := mark.generation + n }

@[simp] theorem LineMark.place_later (n : Nat) (mark : LineMark) :
    (mark.later n).place = mark.place := rfl

@[simp] theorem LineMark.info_later (n : Nat) (mark : LineMark) :
    (mark.later n).info = mark.info := rfl

def Operation.later (n : Nat) : Operation α → Operation α
  | .endLine mark => .endLine (mark.later n)
  | operation => operation

def Outcome.later (n : Nat) : Outcome α → Outcome α
  | .mark m => .mark (m.later n)
  | outcome => outcome

/-- An operation without a mark is the same at any time. -/
theorem Operation.later_of_unmarked (n : Nat) {operation : Operation α}
    (h : operation.mark? = none) : operation.later n = operation := by
  cases operation with
  | endLine mark => cases h
  | _ => rfl

theorem Outcome.mark?_later (n : Nat) (outcome : Outcome α) :
    (outcome.later n).mark? = outcome.mark?.map (LineMark.later n) := by
  cases outcome <;> rfl

/-- An outcome without a mark is the same at any time. -/
theorem Outcome.later_ofExcept (n : Nat) {f : β → Outcome α}
    (hf : ∀ value, (f value).later n = f value) (result : Except StreamError β) :
    (Outcome.ofExcept f result).later n = Outcome.ofExcept f result := by
  cases result with
  | error e => rfl
  | ok value => exact hf value

namespace Stream

/-- The stream, had it been cleared `n` times more. -/
def later (s : Stream α) (n : Nat) : Stream α := { s with generation := s.generation + n }

/-! ### One operation -/

section

variable (s : Stream α) (n : Nat)

@[simp] theorem later_buffer : (s.later n).buffer = s.buffer := rfl

@[simp] theorem later_lineCount : (s.later n).lineCount = s.lineCount := rfl

theorem endLine_later (mark : LineMark) :
    (s.later n).endLine (mark.later n) = (s.endLine mark).map fun t => t.later n := by
  have hgeneration : (mark.later n).generation ≠ (s.later n).generation ↔
      mark.generation ≠ s.generation := by
    show mark.generation + n ≠ s.generation + n ↔ _
    omega
  rw [endLine, endLine, later_buffer, LineMark.place_later, LineMark.info_later]
  by_cases hstale : mark.generation ≠ s.generation
  · rw [if_pos (hgeneration.2 hstale), if_pos hstale]
    rfl
  · rw [if_neg (mt hgeneration.1 hstale), if_neg hstale]
    by_cases hindex : s.buffer.count < mark.place.index + 1
    · rw [if_pos hindex, if_pos hindex]
      rfl
    · rw [if_neg hindex, if_neg hindex]
      dsimp only
      cases s.buffer.overwrite mark.place _ <;> rfl

/-- A result that is either a value with the stream after it, or a fault. -/
def laterResult (n : Nat) (result : Except StreamError (β × Stream α)) :
    Except StreamError (β × Stream α) :=
  result.map fun after => (after.1, after.2.later n)

theorem laterResult_map (result : Except StreamError (Stream α)) :
    laterResult n (result.map ((), ·)) = (result.map fun t => t.later n).map ((), ·) := by
  cases result <;> rfl

theorem readCommand_later : (s.later n).readCommand = laterResult n s.readCommand := by
  rw [readCommand, readCommand, later_buffer]
  cases s.buffer.current with
  | error e => rfl
  | ok c =>
    dsimp only
    cases s.buffer.advance <;> rfl

theorem read_later (expected : Command.Kind) :
    (s.later n).read expected = laterResult n (s.read expected) := by
  rw [read, read, readCommand_later, later_buffer]
  cases s.buffer.currentKind with
  | error e => rfl
  | ok kind =>
    cases kind with
    | none => rfl
    | some found =>
      dsimp only
      by_cases hfound : found ≠ expected
      · rw [if_pos hfound, if_pos hfound]
        rfl
      · rw [if_neg hfound, if_neg hfound]

theorem seekNextCommand_later : (s.later n).seekNextCommand = laterResult n s.seekNextCommand := by
  rw [seekNextCommand, seekNextCommand, later_buffer]
  cases s.buffer.advance <;> rfl

theorem seekLine_later (line : Nat) :
    (s.later n).seekLine line = (s.seekLine line).map fun t => t.later n := by
  rw [seekLine, seekLine, later_buffer, later_lineCount]
  by_cases hline : s.lineCount ≤ line
  · rw [if_pos hline, if_pos hline]
    rfl
  · rw [if_neg hline, if_neg hline]
    cases s.buffer.placeOfLine line <;> rfl

theorem seek_later (index : Nat) :
    (s.later n).seek index = ((s.seek index).1, (s.seek index).2.later n) := by
  rw [seek, seek, later_buffer]
  dsimp only
  cases (s.buffer.seek index).1 <;> rfl

theorem seekNextLine_later :
    (s.later n).seekNextLine = (s.seekNextLine.1, s.seekNextLine.2.later n) := by
  rw [seekNextLine, seekNextLine, later_buffer]
  cases s.buffer.walkToNextLine with
  | error e => rfl
  | ok walk =>
    cases walk with
    | none => rfl
    | some w =>
      dsimp only
      cases w.fault <;> rfl

/-- Replaying looks at the commands, the registries and the texts. -/
theorem replay_later (store : SourceStore) : (s.later n).replay store = s.replay store := by
  have hfrom (current : Option Source) (cs : List (Except StreamError Command)) :
      (s.later n).replayFrom store current cs = s.replayFrom store current cs := by
    induction cs generalizing current with
    | nil => rfl
    | cons c cs ih =>
      cases c with
      | error e => rfl
      | ok c =>
        have hresolve : (s.later n).resolve store current c = s.resolve store current c := by
          cases c <;> rfl
        rw [replayFrom, replayFrom, hresolve]
        cases s.resolve store current c with
        | error e => rfl
        | ok event =>
          dsimp only
          rw [ih]
  exact hfrom none s.commands

theorem orUnchanged_later {f : β → Outcome α} (hf : ∀ value, (f value).later n = f value)
    (result : Except StreamError (β × Stream α)) :
    (s.later n).orUnchanged f (laterResult n result) =
      ((s.orUnchanged f result).1.later n, (s.orUnchanged f result).2.later n) := by
  cases result with
  | error e => rfl
  | ok after => exact congrArg (fun outcome => (outcome, after.2.later n)) (hf after.1).symm

/-- **One operation cannot tell how often a stream was cleared**, when the mark that it is given
keeps pace. -/
theorem perform_later (operation : Operation α) :
    (s.later n).perform (operation.later n) =
      ((s.perform operation).1.later n, (s.perform operation).2.later n) := by
  cases operation with
  | endLine mark =>
    show (s.later n).orUnchanged _ (((s.later n).endLine (mark.later n)).map ((), ·)) = _
    rw [endLine_later, ← laterResult_map]
    exact s.orUnchanged_later n (fun _ => rfl) _
  | read expected =>
    show (s.later n).orUnchanged _ ((s.later n).read expected) = _
    rw [read_later]
    exact s.orUnchanged_later n (fun _ => rfl) _
  | readCommand =>
    show (s.later n).orUnchanged _ (s.later n).readCommand = _
    rw [readCommand_later]
    exact s.orUnchanged_later n (fun _ => rfl) _
  | seekLine line =>
    show (s.later n).orUnchanged _ (((s.later n).seekLine line).map ((), ·)) = _
    rw [seekLine_later, ← laterResult_map]
    exact s.orUnchanged_later n (fun _ => rfl) _
  | seekNextCommand =>
    show (s.later n).orUnchanged _ (s.later n).seekNextCommand = _
    rw [seekNextCommand_later]
    exact s.orUnchanged_later n (fun _ => rfl) _
  | seek index =>
    show (Outcome.ofExcept .kind ((s.later n).seek index).1, ((s.later n).seek index).2) = _
    rw [seek_later]
    exact congrArg (Prod.mk · _) (Outcome.later_ofExcept n (fun _ => rfl) _).symm
  | seekNextLine =>
    show (Outcome.ofExcept .truth (s.later n).seekNextLine.1, (s.later n).seekNextLine.2) = _
    rw [seekNextLine_later]
    exact congrArg (Prod.mk · _) (Outcome.later_ofExcept n (fun _ => rfl) _).symm
  | peek => exact congrArg (Prod.mk · _) (Outcome.later_ofExcept n (fun _ => rfl) _).symm
  | currentKind => exact congrArg (Prod.mk · _) (Outcome.later_ofExcept n (fun _ => rfl) _).symm
  | replay store =>
    show (Outcome.replay ((s.later n).replay store), s.later n) = _
    rw [replay_later]
    rfl
  | clear =>
    show (Outcome.done, (s.later n).clear) = (.done, s.clear.later n)
    rw [clear, clear, later, later, Nat.add_right_comm]
  | _ => rfl

end

end Stream

/-! ### What the holder of a stream sees -/

/-- What the holder of a stream asks for.  A line is ended with the mark that was the `number`-th to
be handed out. -/
inductive Request (α : Type) where
  | operation (operation : Operation α) (unmarked : operation.mark? = none)
  | endLine (number : Nat)

/-- The operation that a request stands for, unless its mark was not handed out yet. -/
def Request.operation? (marks : List LineMark) : Request α → Option (Operation α)
  | .operation asked _ => some asked
  | .endLine number => marks[number]?.map .endLine

/-- What is seen of an outcome: of a mark, all but the count of clearings. -/
def Outcome.visible : Outcome α → Outcome α
  | .mark m => .mark { m with generation := 0 }
  | outcome => outcome

namespace Stream

/-- What is seen of a stream: all but the count of clearings. -/
def visible (s : Stream α) : Stream α := { s with generation := 0 }

/-- What is seen while requests are answered one after another: the outcome of each, and the stream
after it.  A request without its mark is passed over. -/
def views (s : Stream α) (marks : List LineMark) : List (Request α) → List (Outcome α × Stream α)
  | [] => []
  | request :: requests =>
    match request.operation? marks with
    | none => s.views marks requests
    | some operation =>
      let (outcome, after) := s.perform operation
      (outcome.visible, after.visible) :: after.views (marks ++ outcome.mark?.toList) requests

/-- **Streams that differ by the count of clearings are seen alike**, request for request. -/
theorem views_later (s : Stream α) (n : Nat) (marks : List LineMark) (requests : List (Request α)) :
    (s.later n).views (marks.map (LineMark.later n)) requests = s.views marks requests := by
  -- the marks in hand keep the difference, so it never shows
  induction requests generalizing s marks with
  | nil => rfl
  | cons request requests ih =>
    have hoperation : request.operation? (marks.map (LineMark.later n)) =
        (request.operation? marks).map (Operation.later n) := by
      cases request with
      | operation operation unmarked =>
        exact congrArg some (operation.later_of_unmarked n unmarked).symm
      | endLine number =>
        show ((marks.map (LineMark.later n))[number]?).map _ = _
        rw [List.getElem?_map, Request.operation?]
        cases marks[number]? <;> rfl
    rw [views, views, hoperation]
    cases request.operation? marks with
    | none => exact ih s marks
    | some operation =>
      have hperform := s.perform_later n operation
      have hmarks : marks.map (LineMark.later n) ++
          ((s.perform operation).1.later n).mark?.toList =
          (marks ++ (s.perform operation).1.mark?.toList).map (LineMark.later n) := by
        rw [List.map_append, Outcome.mark?_later]
        cases (s.perform operation).1.mark? <;> rfl
      have hvisible : ((s.perform operation).1.later n).visible =
          (s.perform operation).1.visible := by
        cases (s.perform operation).1 <;> rfl
      simp only [Option.map_some, hperform, hmarks, hvisible, ih]
      rfl

/-- **A cleared stream cannot be told from a new one.**  After any run, whatever marks it used, the
stream is cleared; from then on all requests are answered as a new stream would answer them, and
after each of them the two streams look the same. -/
theorem cleared_indistinguishable (config : StreamConfig) (operations : List (Operation α))
    (requests : List (Request α)) :
    (((ofConfig config).run operations).2.clear).views [] requests =
      (empty : Stream α).views [] requests := by
  -- clearing puts back everything but the count
  have hclear (s : Stream α) : s.clear = (empty : Stream α).later (s.generation + 1) := by
    rw [clear, later, show (empty : Stream α).generation = 0 from rfl, Nat.zero_add]
    rfl
  rw [hclear]
  exact views_later empty _ [] requests

end Stream

end StyledText
