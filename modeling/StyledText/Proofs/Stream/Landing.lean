import Mathlib.Order.Bounds.Basic
import StyledText.Proofs.Stream.Run

/-!
# Where the next line is

Two ways lead to the next line.  From a command that opens a line the cursor jumps, over as many
commands as that one tells; from any other command it goes on command by command and looks at each.
When every line tells the number of commands that stand in it, **both ways lead to the same place**:
to the first command behind the cursor that opens a line, and to the end when there is none.

* `Command.LinesCounted` — every line tells its number of commands.
* `Command.isLeast_findIdx`, `Command.LinesCounted.toNat_length` — where the scan stops, and that
  the jump goes as far.
* `Stream.Represents.perform_seekNextLine_isLeast` — the step from anywhere in such a stream.
-/

namespace StyledText

namespace Command

variable {cs : List Command} {p : Nat}

/-- Every command that opens a line tells how many commands follow it until the next one that does,
or until the end. -/
def LinesCounted (cs : List Command) : Prop :=
  ∀ i info, cs[i]? = some (.lineInfo info) →
    info.lengthInCommands.toNat = ((cs.drop (i + 1)).takeWhile fun c => c.kind ≠ .lineInfo).length

/-- The indices behind `p` of commands that open lines. -/
def laterLines (cs : List Command) (p : Nat) : Set Nat :=
  {i | p < i ∧ ∃ info, cs[i]? = some (.lineInfo info)}

/-- The commands before the first that opens a line are as many as its index tells. -/
theorem length_takeWhile_ne_lineInfo (cs : List Command) :
    (cs.takeWhile fun c => c.kind ≠ .lineInfo).length =
      cs.findIdx fun c => c.kind == .lineInfo := by
  have hpred : (fun c : Command => !decide (c.kind ≠ .lineInfo)) = fun c => c.kind == .lineInfo := by
    funext c
    rw [decide_not, Bool.not_not]
    rfl
  rw [List.takeWhile_eq_take_findIdx_not, List.length_take_of_le List.findIdx_le_length, hpred]

/-- **The scan stops at the first later command that opens a line**, or at the end. -/
theorem isLeast_findIdx (hp : p < cs.length) :
    IsLeast (laterLines cs p ∪ {cs.length})
      (p + 1 + (cs.drop (p + 1)).findIdx fun c => c.kind == .lineInfo) := by
  let passed := (cs.drop (p + 1)).findIdx fun c => c.kind == .lineInfo
  have hle : passed ≤ (cs.drop (p + 1)).length := List.findIdx_le_length
  have hlength : (cs.drop (p + 1)).length = cs.length - (p + 1) := List.length_drop
  have hget (j : Nat) : (cs.drop (p + 1))[j]? = cs[p + 1 + j]? := List.getElem?_drop
  show IsLeast _ (p + 1 + passed)
  constructor
  · by_cases hfound : passed < (cs.drop (p + 1)).length
    · have hkind : ((cs.drop (p + 1))[passed].kind == .lineInfo) = true :=
        List.findIdx_getElem (p := fun c : Command => c.kind == .lineInfo) (w := hfound)
      obtain ⟨info, hinfo⟩ := eq_lineInfo_of_kind (beq_iff_eq.1 hkind)
      refine .inl ⟨by omega, info, ?_⟩
      rw [← hget, List.getElem?_eq_getElem hfound, hinfo]
    · exact .inr (show p + 1 + passed = cs.length by omega)
  · rintro i (⟨hlt, info, hinfo⟩ | rfl)
    · -- a command before the one where the scan stops does not open a line
      apply Nat.not_lt.1
      intro hbefore
      have hpassed : i - (p + 1) < passed := by omega
      have hkind := List.not_of_lt_findIdx hpassed
      have hi := hget (i - (p + 1))
      rw [Nat.add_sub_cancel' (show p + 1 ≤ i from hlt), hinfo,
        List.getElem?_eq_getElem (Nat.lt_of_lt_of_le hpassed hle)] at hi
      rw [Option.some.inj hi] at hkind
      exact Bool.noConfusion hkind
    · show p + 1 + passed ≤ cs.length
      omega

/-- The jump over a line goes as far as the scan behind its first command. -/
theorem LinesCounted.toNat_length (h : LinesCounted cs) {info : LineInfo}
    (hinfo : cs[p]? = some (.lineInfo info)) :
    info.lengthInCommands.toNat =
      (cs.drop (p + 1)).findIdx fun c => c.kind == .lineInfo := by
  rw [h p info hinfo, length_takeWhile_ne_lineInfo]

end Command

namespace Stream

open Command

variable {α : Type} {s : Stream α} {cs : List Command} {p : Nat}

/-- **Going to the next line lands on it from everywhere**, where every line tells its number of
commands: from the command that opens a line, from one that stands in a line, from before the first
line, and from the end.  There is always an answer, and nothing but the cursor is changed: it goes
to the first later command that opens a line, or to the end when there is none. -/
theorem Represents.perform_seekNextLine_isLeast (h : s.Represents cs) (hcounted : LinesCounted cs)
    (hp : p ≤ cs.length) :
    ∃ next, IsLeast (laterLines cs p ∪ {cs.length}) next ∧
      (s.moveTo (.ofIndex cs p)).perform .seekNextLine =
        (.truth (next + 1 < cs.length), s.moveTo (.ofIndex cs next)) := by
  have hu : (s.moveTo (.ofIndex cs p)).Represents cs := h.moveTo hp
  have hposition : (s.moveTo (.ofIndex cs p)).position = p := rfl
  rw [perform, hu.seekNextLine_eq, hposition]
  cases hget : cs[p]? with
  | none =>
    have hend : p = cs.length := Nat.le_antisymm hp (List.getElem?_eq_none_iff.1 hget)
    refine ⟨p, ⟨.inr hend, ?_⟩, ?_⟩
    · rintro i (⟨hlt, -⟩ | rfl)
      · exact Nat.le_of_lt hlt
      · exact hp
    · rw [decide_eq_false (by omega)]
      rfl
  | some c =>
    have hlt := (List.getElem?_eq_some_iff.1 hget).1
    have hleast := isLeast_findIdx hlt
    refine ⟨_, hleast, ?_⟩
    cases c with
    | lineInfo info =>
      have hjump : p + (1 + info.lengthInCommands.toNat) =
          p + 1 + (cs.drop (p + 1)).findIdx fun c => c.kind == .lineInfo := by
        rw [hcounted.toNat_length hget, Nat.add_assoc]
      have hle := hleast.2 (.inr rfl)
      dsimp only
      rw [hjump, if_neg (Nat.not_lt.2 hle)]
      rfl
    | _ => rfl

/-- A line of two commands and two empty ones, behind a block and a command of no line.  The jump
from the first line and the scan from inside it both lead to the second, at index 5. -/
theorem perform_seekNextLine_isLeast_second :
    let cs : List Command := [.blockInfo {}, .toggleBold, .lineInfo { lengthInCommands := 2 },
      .toggleBold, .toggleItalic, .lineInfo {}, .lineInfo {}]
    let s : Stream Unit := ((ofConfig {}).run (cs.map .write)).2
    s.Represents cs ∧ LinesCounted cs ∧
      (s.moveTo (.ofIndex cs 2)).perform .seekNextLine = (.truth true, s.moveTo (.ofIndex cs 5)) ∧
      (s.moveTo (.ofIndex cs 3)).perform .seekNextLine = (.truth true, s.moveTo (.ofIndex cs 5)) := by
  intro cs s
  have hreached : s.Reached cs := ⟨{}, cs.map .write, by decide, rfl, by decide⟩
  have h : s.Represents cs := hreached.represents
  have hcounted : LinesCounted cs := by
    intro i info hinfo
    match i, hinfo with
    | 2, hinfo | 5, hinfo | 6, hinfo => cases hinfo; rfl
    | 0, hinfo | 1, hinfo | 3, hinfo | 4, hinfo | _ + 7, hinfo => cases hinfo
  have hline : 2 < cs.length := by decide
  have hinside : 3 < cs.length := by decide
  obtain ⟨first, hfirst, hjump⟩ := h.perform_seekNextLine_isLeast hcounted (Nat.le_of_lt hline)
  obtain ⟨second, hsecond, hscan⟩ := h.perform_seekNextLine_isLeast hcounted (Nat.le_of_lt hinside)
  rw [hfirst.unique (isLeast_findIdx hline)] at hjump
  rw [hsecond.unique (isLeast_findIdx hinside)] at hscan
  exact ⟨h, hcounted, hjump, hscan⟩

end Stream

end StyledText
