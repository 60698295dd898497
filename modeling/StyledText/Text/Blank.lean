/-!
# Blank text

`isBlank` is Unicode's White_Space property: the six ASCII blanks, the next-line character, the
no-break space and the spaces and separators beyond.  A text is blank when all its characters are,
so the empty text is blank.
-/

namespace StyledText.Text

/-- The ranges of the White_Space property, ends included. -/
def blankRanges : List (Nat × Nat) :=
  [(0x09, 0x0D), (0x20, 0x20), (0x85, 0x85), (0xA0, 0xA0), (0x1680, 0x1680), (0x2000, 0x200A),
    (0x2028, 0x2029), (0x202F, 0x202F), (0x205F, 0x205F), (0x3000, 0x3000)]

/-- Whether a character has the White_Space property. -/
def isBlank (c : Char) : Bool :=
  blankRanges.any fun r => r.1 ≤ c.toNat && c.toNat ≤ r.2

/-- Whether every character of a text is blank. -/
def isBlankText (s : String) : Bool := s.toList.all isBlank

end StyledText.Text
