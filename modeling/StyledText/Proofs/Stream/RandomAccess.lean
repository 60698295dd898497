import StyledText.Proofs.Stream.Run

/-!
# Random access and reading in order

Where the cursor of a stream goes is told by an index, and **what is read there is the command of
that index**, by whatever way the cursor came: onward from where it was, or from the first record
again.  So reading one command after another and seeking them one by one see the same list, the one
that was written.

* `Represents.perform_seek`, `Represents.perform_read` — one operation.
* `Represents.run_read` — reading up to the end gives all commands from the cursor on.
* `Reached.seek_read` — all of this for the streams that runs leave.
-/

namespace StyledText.Stream

open Command

variable {α : Type} {s : Stream α} {cs : List Command}

namespace Represents

/-! ### One operation -/

/-- Seeking within the stream or to its end goes to the index. -/
theorem perform_seek (h : s.Represents cs) {index : Nat} (hi : index ≤ cs.length) :
    s.perform (.seek index) = (.kind (cs[index]?.map kind), s.moveTo (.ofIndex cs index)) := by
  rw [perform, h.seek_eq, if_neg (Nat.not_lt.2 hi)]
  rfl

/-- Seeking beyond the end is refused, and moves nothing. -/
theorem perform_seek_beyond (h : s.Represents cs) {index : Nat} (hi : cs.length < index) :
    s.perform (.seek index) = (.fault (.indexOutOfRange index cs.length), s) := by
  rw [perform, h.seek_eq, if_pos hi]
  rfl

/-- Reading goes on behind a command of the kind asked for, and otherwise moves nothing. -/
theorem perform_read (h : s.Represents cs) (expected : Kind) :
    s.perform (.read expected) =
      match cs[s.position]? with
      | none => (.fault .endOfStream, s)
      | some c =>
        if c.kind = expected then (.command c, s.moveTo (.ofIndex cs (s.position + 1)))
        else (.fault (.kindMismatch expected c.kind s.position), s) := by
  rw [perform, h.read_eq]
  cases cs[s.position]? with
  | none => rfl
  | some c =>
    dsimp only
    by_cases hkind : c.kind = expected
    · rw [if_pos hkind, if_pos hkind]
      rfl
    · rw [if_neg hkind, if_neg hkind]
      rfl

/-! ### Reading in order -/

/-- **Reading up to the end gives all commands from the cursor on**, when each is asked for by its
kind. -/
theorem run_read (h : s.Represents cs) :
    s.run ((cs.drop s.position).map fun c => .read c.kind) =
      ((cs.drop s.position).map .command, s.moveTo (.ofIndex cs cs.length)) := by
  -- the induction is on the commands that are left to read
  generalize hleft : cs.drop s.position = left
  induction left generalizing s with
  | nil =>
    have hend : s.position = cs.length :=
      Nat.le_antisymm h.position_le (List.drop_eq_nil_iff.1 hleft)
    rw [← hend, h.moveTo_position]
    rfl
  | cons c left ih =>
    have hget : cs[s.position]? = some c := by
      rw [← List.head?_drop, hleft, List.head?_cons]
    have hlt := (List.getElem?_eq_some_iff.1 hget).1
    have hread := h.perform_read c.kind
    simp only [hget, if_true] at hread
    have hnext : cs.drop (s.position + 1) = left := by
      rw [← List.drop_drop, hleft, List.drop_one, List.tail_cons]
    have hrest := ih (h.moveTo hlt) hnext
    show ((s.perform (.read c.kind)).1 :: ((s.perform (.read c.kind)).2.run _).1,
      ((s.perform (.read c.kind)).2.run _).2) = _
    rw [hread, hrest]
    rfl

end Represents

/-! ### Streams that runs leave -/

/-- **Random access agrees with reading in order.**  The cursor of a stream that a run leaves stands
before one of the commands written or at the end.  From every such place, seeking an index goes
there and tells the kind of the command, or is refused beyond the end; reading gives the command of
the place when it is of the kind asked for, and else moves nothing; and asking for the commands in
order, each by its kind, gives just these commands. -/
theorem Reached.seek_read (h : s.Reached cs) :
    s.commands = cs.map .ok ∧
      s.position ≤ cs.length ∧ s.moveTo (.ofIndex cs s.position) = s ∧
      ∀ p ≤ cs.length, let u := s.moveTo (.ofIndex cs p)
        (∀ i ≤ cs.length, u.perform (.seek i) =
          (.kind (cs[i]?.map kind), s.moveTo (.ofIndex cs i))) ∧
        (∀ i > cs.length, u.perform (.seek i) = (.fault (.indexOutOfRange i cs.length), u)) ∧
        (∀ expected, u.perform (.read expected) =
          match cs[p]? with
          | none => (.fault .endOfStream, u)
          | some c =>
            if c.kind = expected then (.command c, s.moveTo (.ofIndex cs (p + 1)))
            else (.fault (.kindMismatch expected c.kind p), u)) ∧
        u.run ((cs.drop p).map fun c => .read c.kind) =
          ((cs.drop p).map .command, s.moveTo (.ofIndex cs cs.length)) := by
  have hs := h.represents
  refine ⟨hs.commands_eq, hs.position_le, hs.moveTo_position, ?_⟩
  intro p hp u
  have hu : u.Represents cs := hs.moveTo hp
  refine ⟨?_, ?_, hu.perform_read, hu.run_read⟩
  · intro i hi
    exact hu.perform_seek hi
  · intro i hi
    exact hu.perform_seek_beyond hi

/-- After a line was ended and a read failed, everything is read back from the start. -/
theorem Reached.seek_read_from_start :
    let operations : List (Operation Unit) :=
      [.write (.blockInfo {}), .beginLine {}, .write (.pushStyle 7), .endLine ⟨⟨1, 17⟩, {}, 0⟩,
        .seek 1, .read .text]
    let s := ((ofConfig {}).run operations).2
    let cs : List Command := [.blockInfo {}, .lineInfo { lengthInCommands := 1 }, .pushStyle 7]
    s.Reached cs ∧ (s.moveTo {}).run [.read .blockInfo, .read .lineInfo, .read .pushStyle] =
      (cs.map .command, s.moveTo (.ofIndex cs 3)) := by
  intro operations s cs
  have hreached : s.Reached cs := ⟨{}, operations, by decide, rfl, by decide⟩
  exact ⟨hreached, (hreached.seek_read.2.2.2 0 (Nat.zero_le _)).2.2.2⟩

end StyledText.Stream
