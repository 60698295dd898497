import StyledText.Proofs.RecordBuffer.Walk
import StyledText.Stream.Operation

/-!
# Damage

Three faults are met only where the bytes are not the records of commands: a byte that is no tag, a
record that is cut short, and a place outside the bytes.  What is looked up in a list of commands,
its lines or the resources that it names, can fail, but **never tells of damage**.
-/

namespace StyledText

open Command

variable {α : Type}

/-- The faults that are met only where the bytes are not the records of commands. -/
def StreamError.IsDamage : StreamError → Prop
  | .invalidCommand _ | .unexpectedEnd | .outOfBounds => True
  | _ => False

/-- The faults that an outcome tells of. -/
def Outcome.faults : Outcome α → List StreamError
  | .fault e => [e]
  | .commands cs => cs.filterMap fun
    | .ok _ => none
    | .error e => some e
  | .replay r => r.fault.toList
  | _ => []

/-! ### Looking up lines -/

theorem not_isDamage_of_lineInfoAt {cs : List Command} {p : Nat} {e : StreamError}
    (h : lineInfoAt cs p = .error e) : ¬e.IsDamage := by
  unfold lineInfoAt at h
  split at h <;> cases h <;> exact id

theorem not_isDamage_of_followLines {cs : List Command} {n p : Nat} {e : StreamError}
    (h : followLines cs n p = .error e) : ¬e.IsDamage := by
  induction n generalizing p with
  | zero => cases h
  | succ n ih =>
    rw [followLines] at h
    split at h
    · rename_i hinfo
      cases h
      exact not_isDamage_of_lineInfoAt hinfo
    · dsimp only at h
      split at h
      · cases h
        exact id
      · exact ih h

/-- Where a line is looked up, there is an index behind its command; else no damage is told of. -/
theorem indexInLine_cases (cs : List Command) (line : Nat) :
    (∃ p, indexInLine cs line = .ok p ∧ p ≤ cs.length) ∨
      ∃ e, indexInLine cs line = .error e ∧ ¬e.IsDamage := by
  rw [indexInLine]
  by_cases hlen : cs.length < 1
  · rw [if_pos hlen]
    exact .inr ⟨_, rfl, id⟩
  · rw [if_neg hlen]
    cases hstart : followLines cs line 1 with
    | error e => exact .inr ⟨e, rfl, not_isDamage_of_followLines hstart⟩
    | ok start =>
      cases hinfo : lineInfoAt cs start with
      | error e => exact .inr ⟨e, by simp only [hinfo]; rfl, not_isDamage_of_lineInfoAt hinfo⟩
      | ok info =>
        have hlt := (List.getElem?_eq_some_iff.1 (lineInfoAt_eq_ok_iff.1 hinfo)).1
        exact .inl ⟨start + 1, by simp only [hinfo]; rfl, hlt⟩

namespace Stream

/-! ### Replaying -/

theorem not_isDamage_of_lookUp {s : Stream α} {kind : ResourceKind} {index : UInt32}
    {e : StreamError} (h : s.lookUp kind index = .error e) : ¬e.IsDamage := by
  unfold lookUp at h
  split at h <;> cases h
  exact id

theorem not_isDamage_of_resolve {s : Stream α} {store : SourceStore} {current : Option Source}
    {c : Command} {e : StreamError} (h : s.resolve store current c = .error e) : ¬e.IsDamage := by
  have hmap {β : Type} {f : α → β} {kind : ResourceKind} {index : UInt32}
      (h : (s.lookUp kind index).map f = .error e) : ¬e.IsDamage := by
    cases hlook : s.lookUp kind index with
    | ok value => rw [hlook] at h; cases h
    | error e' =>
      rw [hlook] at h
      cases h
      exact not_isDamage_of_lookUp hlook
  cases c with
  | icon run => exact hmap h
  | pushStyle index => exact hmap h
  | pushFont index => exact hmap h
  | pushGlyphShader index => exact hmap h
  | text run =>
    simp only [resolve] at h
    split at h <;> cases h
    exact id
  | changeSourceString index | changeSourceStringBuilder index =>
    simp only [resolve, lookUpSource] at h
    split at h <;> cases h
    exact id
  | _ => cases h

theorem not_isDamage_of_replayFrom {s : Stream α} {store : SourceStore} {current : Option Source}
    {cs : List Command} {e : StreamError}
    (h : (s.replayFrom store current (cs.map .ok)).fault = some e) : ¬e.IsDamage := by
  induction cs generalizing current with
  | nil => cases h
  | cons c cs ih =>
    rw [List.map_cons, replayFrom] at h
    split at h
    · rename_i hresolve
      cases h
      exact not_isDamage_of_resolve hresolve
    · exact ih h

end Stream

end StyledText
