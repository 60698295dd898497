import StyledText.Proofs.Stream.Represents

/-!
# Marks of open lines

A mark **opens** a line in a list of commands when it names the place of a command that opens a
line, and has all that this command tells but the length.  Such a mark stays good: commands are only
added behind it, and ending a line, be it this one or another, changes a length and nothing else.

* `LineMark.Opens.append`, `LineMark.Opens.endLineAt` — a mark outlives what is done to the stream.
* `Represents.beginLine` — a mark that is handed out opens the line that was written.
* `Represents.endLine_eq`, `Represents.endLine` — ending a line fills in its length in the list.
-/

namespace StyledText.Command

/-- The command with another length, if it opens a line. -/
def withLength (length : Nat) : Command → Command
  | .lineInfo info => .lineInfo { info with lengthInCommands := UInt32.ofNat length }
  | c => c

/-- The commands when the line opened at an index is ended: its length is the number of commands
behind it. -/
def endLineAt (cs : List Command) (index : Nat) : List Command :=
  cs.modify index (withLength (cs.length - (index + 1)))

@[simp] theorem kind_withLength (length : Nat) (c : Command) : (c.withLength length).kind = c.kind := by
  cases c <;> rfl

/-- Ending a line changes no kind. -/
theorem map_kind_endLineAt (cs : List Command) (index : Nat) :
    (endLineAt cs index).map kind = cs.map kind := by
  apply List.ext_getElem?
  intro j
  rw [List.getElem?_map, List.getElem?_map, endLineAt, List.getElem?_modify]
  cases cs[j]? with
  | none => rfl
  | some c =>
    simp only [Option.map_eq_map, Option.map_some]
    by_cases hj : index = j
    · rw [if_pos hj, kind_withLength]
    · rw [if_neg hj]

/-- On commands of which one opens a line, ending that line replaces the one command. -/
theorem endLineAt_eq_set {cs : List Command} {index : Nat} {info : LineInfo}
    (h : cs[index]? = some (.lineInfo info)) :
    endLineAt cs index = cs.set index (.lineInfo
      { info with lengthInCommands := UInt32.ofNat (cs.length - (index + 1)) }) := by
  obtain ⟨hlt, hget⟩ := List.getElem?_eq_some_iff.1 h
  rw [endLineAt, List.modify_eq_take_cons_drop hlt, hget,
    List.set_eq_take_append_cons_drop, if_pos hlt]
  rfl

end StyledText.Command

namespace StyledText

open Command

/-- The mark names the place of a command that opens a line, and knows all of it but the length. -/
structure LineMark.Opens (mark : LineMark) (cs : List Command) : Prop where
  /-- The place is where the command stands. -/
  place_eq : mark.place = .ofIndex cs mark.place.index
  /-- The command is the line of the mark, with some length. -/
  command : ∃ length, cs[mark.place.index]? =
    some (.lineInfo { mark.info with lengthInCommands := length })

namespace LineMark.Opens

variable {mark : LineMark} {cs : List Command}

theorem index_lt (h : mark.Opens cs) : mark.place.index < cs.length := by
  obtain ⟨_, hget⟩ := h.command
  exact (List.getElem?_eq_some_iff.1 hget).1

/-- Commands further on do not matter to a mark. -/
theorem append (h : mark.Opens cs) (ds : List Command) : mark.Opens (cs ++ ds) := by
  obtain ⟨length, hget⟩ := h.command
  constructor
  · rw [Cursor.ofIndex_append (Nat.le_of_lt h.index_lt)]
    exact h.place_eq
  · exact ⟨length, by rw [List.getElem?_append_left h.index_lt, hget]⟩

/-- Ending a line, this one or another, leaves a mark good. -/
theorem endLineAt (h : mark.Opens cs) (index : Nat) : mark.Opens (Command.endLineAt cs index) := by
  obtain ⟨length, hget⟩ := h.command
  constructor
  · rw [Cursor.ofIndex_eq_of_kinds (map_kind_endLineAt cs index)]
    exact h.place_eq
  · rw [Command.endLineAt, List.getElem?_modify, hget]
    by_cases hindex : index = mark.place.index
    · refine ⟨UInt32.ofNat (cs.length - (index + 1)), ?_⟩
      rw [Option.map_eq_map, Option.map_some, if_pos hindex]
      rfl
    · refine ⟨length, ?_⟩
      rw [Option.map_eq_map, Option.map_some, if_neg hindex]

end LineMark.Opens

namespace Stream

variable {α : Type}

/-- The stream with the records of other commands in place of its own, as many and as long. -/
def withCommands (s : Stream α) (cs : List Command) : Stream α :=
  { s with buffer := { s.buffer with bytes := encodeAll cs } }

namespace Represents

variable {s : Stream α} {cs ds : List Command} {mark : LineMark}

/-- Commands can be exchanged for others of the same kinds. -/
theorem withCommands (h : s.Represents cs) (hkinds : ds.map kind = cs.map kind) :
    (s.withCommands ds).Represents ds := by
  have hlength : ds.length = cs.length := by
    have := congrArg List.length hkinds
    rwa [List.length_map, List.length_map] at this
  have hcount (es : List Command) : es.countP (fun c => c.kind = .lineInfo)
      = (es.map kind).countP fun k => k = .lineInfo := by
    rw [List.countP_map]
    rfl
  refine ⟨⟨rfl, ?_⟩, ?_, ?_, ?_⟩
  · exact h.holds.count_eq.trans hlength.symm
  · rw [hcount, hkinds, ← hcount]
    exact h.lineCount_eq
  · rw [hlength]
    exact h.position_le
  · rw [Cursor.ofIndex_eq_of_kinds hkinds]
    exact h.cursor_eq

/-- A mark that is handed out opens the line that was written. -/
theorem beginLine (h : s.Represents cs) (info : LineInfo) :
    (s.beginLine info).1.Opens (cs ++ [.lineInfo { info with lengthInCommands := 0 }]) := by
  have hplace : (s.beginLine info).1.place = .ofIndex cs cs.length := h.holds.endCursor_eq
  constructor
  · rw [hplace, Cursor.index_ofIndex, Cursor.ofIndex_append (Nat.le_refl _)]
  · refine ⟨0, ?_⟩
    rw [hplace, Cursor.index_ofIndex, List.getElem?_append_right (Nat.le_refl _), Nat.sub_self]
    rfl

/-- **A line is ended by filling in its length.**  A mark of the present generation that opens a
line is never refused. -/
theorem endLine_eq (h : s.Represents cs) (hmark : mark.Opens cs)
    (hgeneration : mark.generation = s.generation) :
    s.endLine mark = .ok (s.withCommands (endLineAt cs mark.place.index)) := by
  obtain ⟨length, hget⟩ := hmark.command
  have hlt := hmark.index_lt
  have hover := h.holds.overwrite hget (c := .lineInfo
    { mark.info with lengthInCommands := UInt32.ofNat (cs.length - (mark.place.index + 1)) }) rfl
  rw [← hmark.place_eq] at hover
  rw [endLine, if_neg (not_not_intro hgeneration), h.holds.count_eq,
    if_neg (show ¬cs.length < mark.place.index + 1 by omega)]
  simp only [hover]
  rw [endLineAt_eq_set hget]
  rfl

/-- After a line is ended, the stream represents the commands with the length filled in. -/
theorem endLine (h : s.Represents cs) (index : Nat) :
    (s.withCommands (endLineAt cs index)).Represents (endLineAt cs index) :=
  h.withCommands (map_kind_endLineAt cs index)

end Represents

end Stream

end StyledText
