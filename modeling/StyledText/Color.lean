/-!
# Colors

A color has a red, a green, a blue and an alpha channel of a byte each.  Packed into a word, red
takes the highest byte and alpha the lowest.
-/

namespace StyledText

/-- A color with transparency. -/
structure Color where
  r : UInt8
  g : UInt8
  b : UInt8
  /-- Alpha: 0 is transparent, 255 is solid. -/
  a : UInt8
deriving DecidableEq, Repr, Inhabited

namespace Color

def solid (r g b : UInt8) : Color := ⟨r, g, b, 255⟩

def black : Color := solid 0 0 0

def white : Color := solid 255 255 255

def transparent : Color := ⟨0, 0, 0, 0⟩

/-- The channels in one word, red highest. -/
def packed (c : Color) : UInt32 :=
  UInt32.ofNat (c.r.toNat * 0x1000000 + c.g.toNat * 0x10000 + c.b.toNat * 0x100 + c.a.toNat)

/-- The color that a word packs. -/
def ofPacked (word : UInt32) : Color where
  r := UInt8.ofNat (word.toNat / 0x1000000)
  g := UInt8.ofNat (word.toNat / 0x10000)
  b := UInt8.ofNat (word.toNat / 0x100)
  a := UInt8.ofNat word.toNat

/-- Unpacking gives back what was packed. -/
@[simp] theorem ofPacked_packed (c : Color) : ofPacked c.packed = c := by
  obtain ⟨r, g, b, a⟩ := c
  have hr := r.toNat_lt
  have hg := g.toNat_lt
  have hb := b.toNat_lt
  have ha := a.toNat_lt
  simp only [ofPacked, packed, UInt32.toNat_ofNat', Color.mk.injEq]
  refine ⟨?_, ?_, ?_, ?_⟩ <;> apply UInt8.toNat_inj.1 <;> rw [UInt8.toNat_ofNat'] <;> omega

/-- Packing gives back the word that was unpacked. -/
@[simp] theorem packed_ofPacked (word : UInt32) : (ofPacked word).packed = word := by
  have h := word.toNat_lt
  apply UInt32.toNat_inj.1
  simp only [ofPacked, packed, UInt32.toNat_ofNat', UInt8.toNat_ofNat']
  omega

end Color

end StyledText
