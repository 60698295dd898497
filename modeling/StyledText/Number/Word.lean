/-!
# Words as bytes

A word of 32 bits is four bytes, the lowest first.  `readWords? n` takes `n` words off the front of
a list of bytes and **reads back exactly what was written**: `readWords?_eq_some_iff`.
-/

namespace StyledText.Number

/-- The four bytes of a word, the lowest first. -/
def wordBytes (word : UInt32) : List UInt8 :=
  [UInt8.ofNat word.toNat, UInt8.ofNat (word.toNat / 0x100), UInt8.ofNat (word.toNat / 0x10000),
    UInt8.ofNat (word.toNat / 0x1000000)]

/-- The word of four bytes, the lowest first. -/
def wordOfBytes (b₀ b₁ b₂ b₃ : UInt8) : UInt32 :=
  UInt32.ofNat (b₀.toNat + b₁.toNat * 0x100 + b₂.toNat * 0x10000 + b₃.toNat * 0x1000000)

/-- The bytes of a list of words. -/
def wordsBytes (words : List UInt32) : List UInt8 := words.flatMap wordBytes

/-- The first `n` words of a list of bytes, when it is long enough. -/
def readWords? : Nat → List UInt8 → Option (List UInt32)
  | 0, _ => some []
  | n + 1, b₀ :: b₁ :: b₂ :: b₃ :: bytes =>
    (readWords? n bytes).map (wordOfBytes b₀ b₁ b₂ b₃ :: ·)
  | _ + 1, _ => none

@[simp] theorem length_wordBytes (word : UInt32) : (wordBytes word).length = 4 := rfl

@[simp] theorem wordsBytes_nil : wordsBytes [] = [] := rfl

@[simp] theorem wordsBytes_cons (word : UInt32) (words : List UInt32) :
    wordsBytes (word :: words) = wordBytes word ++ wordsBytes words := rfl

theorem length_wordsBytes (words : List UInt32) : (wordsBytes words).length = 4 * words.length := by
  induction words with
  | nil => rfl
  | cons word words ih =>
    simp only [wordsBytes_cons, List.length_append, length_wordBytes, ih, List.length_cons]
    omega

/-- The bytes of a word make up the word. -/
theorem wordOfBytes_wordBytes (word : UInt32) :
    wordOfBytes (UInt8.ofNat word.toNat) (UInt8.ofNat (word.toNat / 0x100))
      (UInt8.ofNat (word.toNat / 0x10000)) (UInt8.ofNat (word.toNat / 0x1000000)) = word := by
  have h := word.toNat_lt
  apply UInt32.toNat_inj.1
  simp only [wordOfBytes, UInt32.toNat_ofNat', UInt8.toNat_ofNat']
  omega

/-- The word of four bytes has these bytes. -/
theorem wordBytes_wordOfBytes (b₀ b₁ b₂ b₃ : UInt8) :
    wordBytes (wordOfBytes b₀ b₁ b₂ b₃) = [b₀, b₁, b₂, b₃] := by
  have h₀ := b₀.toNat_lt
  have h₁ := b₁.toNat_lt
  have h₂ := b₂.toNat_lt
  have h₃ := b₃.toNat_lt
  simp only [wordBytes, wordOfBytes, UInt32.toNat_ofNat', List.cons.injEq, and_true]
  refine ⟨?_, ?_, ?_, ?_⟩ <;> apply UInt8.toNat_inj.1 <;> rw [UInt8.toNat_ofNat'] <;> omega

/-- Reading succeeds just on bytes that begin with the bytes of that many words. -/
theorem readWords?_eq_some_iff {n : Nat} {bytes : List UInt8} {words : List UInt32} :
    readWords? n bytes = some words ↔
      words.length = n ∧ ∃ rest, wordsBytes words ++ rest = bytes := by
  induction n generalizing bytes words with
  | zero =>
    simp only [readWords?, Option.some.injEq, List.length_eq_zero_iff]
    constructor
    · intro heq
      subst heq
      exact ⟨rfl, bytes, rfl⟩
    · intro hwords
      obtain ⟨rfl, _⟩ := hwords
      rfl
  | succ n ih =>
    constructor
    · intro h
      match bytes, h with
      | b₀ :: b₁ :: b₂ :: b₃ :: bytes, h =>
        obtain ⟨tail, htail, rfl⟩ := Option.map_eq_some_iff.1 h
        obtain ⟨hlen, rest, rfl⟩ := ih.1 htail
        refine ⟨by rw [List.length_cons, hlen], rest, ?_⟩
        rw [wordsBytes_cons, wordBytes_wordOfBytes]
        rfl
    · intro hwords
      obtain ⟨hlen, rest, rfl⟩ := hwords
      cases words with
      | nil => exact absurd hlen (by simp)
      | cons word words =>
        have htail : readWords? n (wordsBytes words ++ rest) = some words :=
          ih.2 ⟨by simpa using hlen, rest, rfl⟩
        simp only [wordsBytes_cons, wordBytes, List.cons_append, List.nil_append, readWords?,
          htail, Option.map_some, wordOfBytes_wordBytes]

/-- Reading fails just on bytes that are too few. -/
theorem readWords?_eq_none_iff {n : Nat} {bytes : List UInt8} :
    readWords? n bytes = none ↔ bytes.length < 4 * n := by
  induction n generalizing bytes with
  | zero => simp [readWords?]
  | succ n ih =>
    match bytes with
    | b₀ :: b₁ :: b₂ :: b₃ :: bytes =>
      simp only [readWords?, Option.map_eq_none_iff, ih, List.length_cons]
      omega
    | [] | [_] | [_, _] | [_, _, _] =>
      simp only [readWords?, List.length_cons, List.length_nil, true_iff]
      omega

end StyledText.Number
