import StyledText.Number.Binary32

/-!
# Rectangles

A rectangle is given by its upper left corner, its width and its height.  It is empty when it has no
positive extent in one direction, and the union of two rectangles passes over an empty one.
-/

namespace StyledText

open Number

/-- An axis-aligned rectangle. -/
structure Rect where
  x : Binary32
  y : Binary32
  width : Binary32
  height : Binary32
deriving DecidableEq, Repr

namespace Rect

/-- The rectangle of size zero at the origin. -/
def zero : Rect := ⟨.zero, .zero, .zero, .zero⟩

instance : Inhabited Rect := ⟨zero⟩

def right (r : Rect) : Binary32 := r.x.add r.width

def bottom (r : Rect) : Binary32 := r.y.add r.height

/-- Whether the width or the height is at most zero. -/
def isEmpty (r : Rect) : Bool := r.width.le .zero || r.height.le .zero

def sameValue (r s : Rect) : Bool :=
  r.x.sameValue s.x && r.y.sameValue s.y && r.width.sameValue s.width &&
    r.height.sameValue s.height

/-- The least rectangle that covers both; an empty one counts for nothing. -/
def union (r s : Rect) : Rect :=
  if r.isEmpty then s
  else if s.isEmpty then r
  else
    let x := r.x.min s.x
    let y := r.y.min s.y
    ⟨x, y, (r.right.max s.right).sub x, (r.bottom.max s.bottom).sub y⟩

end Rect

end StyledText
