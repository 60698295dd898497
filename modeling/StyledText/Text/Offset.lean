/-!
# Byte offsets into text

Places in a text are counted in bytes of its UTF-8 form.  An offset names a place only where a
character begins or the text ends, so cutting at an offset can fail.  The cuts work on the list of
characters, one character of `Char.utf8Size` bytes at a time:

* `splitBytes? n cs` is the first `n` bytes and what follows them, `takeBytes?` and `dropBytes?` are
  the one and the other;
* **a successful cut is exact**: `splitBytes?_eq_some_iff` says that it succeeds just when `cs` is a
  front of width `n` and a rest;
* `cut? start stop s` is the text between two offsets, and its size is `stop - start`
  (`add_utf8ByteSize_of_cut?`).
-/

namespace StyledText.Text

/-- The number of bytes in the UTF-8 form of a list of characters. -/
def width : List Char → Nat
  | [] => 0
  | c :: cs => c.utf8Size + width cs

@[simp] theorem width_nil : width [] = 0 := rfl

@[simp] theorem width_cons (c : Char) (cs : List Char) :
    width (c :: cs) = c.utf8Size + width cs := rfl

/-! ### Cutting lists of characters -/

/-- The characters of the first `n` bytes and those that follow, when a character begins there or
the text ends there. -/
def splitBytes? (n : Nat) : List Char → Option (List Char × List Char)
  | [] => if n = 0 then some ([], []) else none
  | c :: cs =>
    if n = 0 then some ([], c :: cs)
    else if c.utf8Size ≤ n then
      (splitBytes? (n - c.utf8Size) cs).map fun split => (c :: split.1, split.2)
    else none

/-- What follows the first `n` bytes. -/
def dropBytes? (n : Nat) (cs : List Char) : Option (List Char) :=
  (splitBytes? n cs).map fun split => split.2

/-- The characters of the first `n` bytes. -/
def takeBytes? (n : Nat) (cs : List Char) : Option (List Char) :=
  (splitBytes? n cs).map fun split => split.1

theorem splitBytes?_zero (cs : List Char) : splitBytes? 0 cs = some ([], cs) := by
  cases cs <;> rfl

/-- A list is split behind any front of it, at the width of the front. -/
theorem splitBytes?_append (front rest : List Char) :
    splitBytes? (width front) (front ++ rest) = some (front, rest) := by
  induction front with
  | nil => exact splitBytes?_zero rest
  | cons c front ih =>
    have hc := c.utf8Size_pos
    rw [List.cons_append, splitBytes?, width_cons, if_neg (by omega),
      if_pos (Nat.le_add_right _ _), Nat.add_sub_cancel_left, ih]
    rfl

/-- The two parts make up the list, and the front has `n` bytes. -/
theorem append_of_splitBytes? {n : Nat} {cs front rest : List Char}
    (h : splitBytes? n cs = some (front, rest)) : width front = n ∧ front ++ rest = cs := by
  induction cs generalizing n front with
  | nil =>
    rw [splitBytes?] at h
    split at h
    · cases h
      exact ⟨Eq.symm ‹n = 0›, rfl⟩
    · cases h
  | cons c cs ih =>
    rw [splitBytes?] at h
    split at h
    · cases h
      exact ⟨Eq.symm ‹n = 0›, rfl⟩
    · split at h
      · obtain ⟨⟨front, rest⟩, hsplit, heq⟩ := Option.map_eq_some_iff.1 h
        cases heq
        obtain ⟨hwidth, rfl⟩ := ih hsplit
        refine ⟨?_, rfl⟩
        rw [width_cons, hwidth]
        omega
      · cases h

/-- **Splitting at `n` bytes succeeds just on the lists that have a front of `n` bytes.** -/
theorem splitBytes?_eq_some_iff {n : Nat} {cs front rest : List Char} :
    splitBytes? n cs = some (front, rest) ↔ width front = n ∧ front ++ rest = cs := by
  constructor
  · exact append_of_splitBytes?
  · rintro ⟨rfl, rfl⟩
    exact splitBytes?_append front rest

/-- Dropping `n` bytes succeeds just on the lists that have a front of `n` bytes. -/
theorem dropBytes?_eq_some_iff {n : Nat} {cs rest : List Char} :
    dropBytes? n cs = some rest ↔ ∃ front, width front = n ∧ front ++ rest = cs := by
  rw [dropBytes?, Option.map_eq_some_iff]
  constructor
  · rintro ⟨⟨front, _⟩, hsplit, rfl⟩
    exact ⟨front, splitBytes?_eq_some_iff.1 hsplit⟩
  · rintro ⟨front, hfront⟩
    exact ⟨(front, rest), splitBytes?_eq_some_iff.2 hfront, rfl⟩

/-- Taking `n` bytes succeeds just on the lists that have a front of `n` bytes. -/
theorem takeBytes?_eq_some_iff {n : Nat} {cs front : List Char} :
    takeBytes? n cs = some front ↔ width front = n ∧ ∃ rest, front ++ rest = cs := by
  rw [takeBytes?, Option.map_eq_some_iff]
  constructor
  · rintro ⟨⟨_, rest⟩, hsplit, rfl⟩
    obtain ⟨hwidth, happend⟩ := splitBytes?_eq_some_iff.1 hsplit
    exact ⟨hwidth, rest, happend⟩
  · rintro ⟨hwidth, rest, happend⟩
    exact ⟨(front, rest), splitBytes?_eq_some_iff.2 ⟨hwidth, happend⟩, rfl⟩

/-! ### Cutting strings -/

/-- The bytes of a string built from a list of characters are counted by `width`. -/
theorem utf8ByteSize_ofList (cs : List Char) : (String.ofList cs).utf8ByteSize = width cs := by
  induction cs with
  | nil => rfl
  | cons c cs ih =>
    have h : String.ofList (c :: cs) = String.singleton c ++ String.ofList cs := by
      rw [← String.toList_inj]
      simp
    rw [h, String.utf8ByteSize_append, ih, String.utf8ByteSize_singleton, width_cons]

/-- The bytes of a string are those of its characters. -/
theorem utf8ByteSize_eq_width (s : String) : s.utf8ByteSize = width s.toList := by
  rw [← utf8ByteSize_ofList, String.ofList_toList]

/-- The text of `s` from byte `start` up to byte `stop`, when both are places in `s`, in order. -/
def cut? (start stop : Nat) (s : String) : Option String :=
  if start ≤ stop then
    ((dropBytes? start s.toList).bind (takeBytes? (stop - start))).map String.ofList
  else none

/-- A cut succeeds just when the text splits at its two ends. -/
theorem cut?_eq_some_iff {start stop : Nat} {s t : String} :
    cut? start stop s = some t ↔
      start + t.utf8ByteSize = stop ∧
        ∃ front rest, width front = start ∧ front ++ (t.toList ++ rest) = s.toList := by
  simp only [cut?]
  constructor
  · intro h
    split at h
    · rename_i hle
      obtain ⟨cs, hcs, rfl⟩ := Option.map_eq_some_iff.1 h
      obtain ⟨tail, htail, hcs⟩ := Option.bind_eq_some_iff.1 hcs
      obtain ⟨front, hw, hf⟩ := dropBytes?_eq_some_iff.1 htail
      obtain ⟨hw', rest, rfl⟩ := takeBytes?_eq_some_iff.1 hcs
      refine ⟨by rw [utf8ByteSize_ofList]; omega, front, rest, hw, ?_⟩
      rw [String.toList_ofList]
      exact hf
    · exact absurd h (by simp)
  · intro hfront
    obtain ⟨hsize, front, rest, hw, hs⟩ := hfront
    rw [if_pos (by omega), dropBytes?_eq_some_iff.2 ⟨front, hw, hs⟩, Option.bind_some,
      takeBytes?_eq_some_iff.2 ⟨by rw [← utf8ByteSize_eq_width]; omega, rest, rfl⟩,
      Option.map_some, String.ofList_toList]

/-- A cut is as long as the distance of its ends. -/
theorem add_utf8ByteSize_of_cut? {start stop : Nat} {s t : String}
    (h : cut? start stop s = some t) :
    start + t.utf8ByteSize = stop :=
  (cut?_eq_some_iff.1 h).1

/-- Cutting from the first place to the last gives the whole text. -/
theorem cut?_zero_utf8ByteSize (s : String) : cut? 0 (0 + s.utf8ByteSize) s = some s :=
  cut?_eq_some_iff.2 ⟨rfl, [], [], rfl, by simp⟩

end StyledText.Text
