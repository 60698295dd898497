/-!
# Spans

A span is the range of source bytes that a piece of syntax covers, from `start` up to but not
including `stop`.
-/

namespace StyledText

/-- A half-open range of byte offsets. -/
structure Span where
  start : Nat
  stop : Nat
deriving DecidableEq, Repr

namespace Span

/-- The span of nothing, at the start of the source. -/
def none : Span := ⟨0, 0⟩

instance : Inhabited Span := ⟨none⟩

def length (s : Span) : Nat := s.stop - s.start

def isEmpty (s : Span) : Bool := s.start == s.stop

instance : Membership Nat Span where
  mem s offset := s.start ≤ offset ∧ offset < s.stop

instance (s : Span) (offset : Nat) : Decidable (offset ∈ s) :=
  inferInstanceAs (Decidable (s.start ≤ offset ∧ offset < s.stop))

/-- The least span that covers both. -/
def merge (s t : Span) : Span := ⟨min s.start t.start, max s.stop t.stop⟩

instance : ToString Span where
  toString s := toString s.start ++ ".." ++ toString s.stop

end Span

end StyledText
