import Mathlib
import StyledText.Number.Binary32

/-!
# Exact values of numbers

Numbers are compared by their keys, which are read off the bits.  Here the keys are held against
what the bits stand for: the exact value of a number as a multiple of the least positive one, with
the infinities below and above all multiples.  **The keys are in the order of the values**, so that
no comparison is ever rounded.

* `Format.strictMono_units` — greater magnitudes have greater values.
* `Binary32.value?` — the value of a number, and none for what is not a number.
* `Binary32.value_le_iff_key_le` — values are in the order of the keys.

The greatest number of a list is found by taking the greater of two from the front on.  Which of two
is the greater is not settled by their values where these are equal, as those of the two zeros are;
`max` keeps the first.  **Whichever is taken, the value of what is found is the same**, in whatever
order the list is gone through, and `max` finds the same bits if it sets out from zero or above.

* `Binary32.MayBeMax`, `Binary32.MayBeGreatest` — what the greater of two may be, and the greatest of
  a list.
* `Binary32.MayBeGreatest.isGreatestFrom` — what is found, step by step.
* `Binary32.IsGreatestFrom.value?_eq`, `Binary32.foldl_max_eq_of_mem_iff` — it is the same for the
  same members.
-/

namespace StyledText.Number

/-! ### Magnitudes -/

namespace Format

theorem binade_pos (f : Format) : 0 < f.binade := Nat.two_pow_pos _

/-- The values of magnitudes stay below where the next exponent begins. -/
theorem units_lt_of_div (f : Format) (m : Nat) : f.units m < f.binade * 2 ^ (m / f.binade) := by
  rw [units]
  split
  · rename_i hm
    rw [Nat.div_eq_of_lt hm]
    omega
  · rename_i hm
    have hexp : 0 < m / f.binade := Nat.div_pos (by omega) f.binade_pos
    have hpow : 2 ^ (m / f.binade) = 2 * 2 ^ (m / f.binade - 1) := by
      rw [← Nat.pow_succ']
      congr 1
      omega
    have hfraction : f.binade + m % f.binade < f.binade * 2 := by
      have hmod := Nat.mod_lt m f.binade_pos
      omega
    rw [hpow, ← Nat.mul_assoc]
    exact Nat.mul_lt_mul_of_pos_right hfraction (Nat.two_pow_pos _)

/-- A magnitude with an exponent has at least the value where the exponent begins. -/
theorem le_units_of_div (f : Format) {m : Nat} (hm : 0 < m / f.binade) :
    f.binade * 2 ^ (m / f.binade - 1) ≤ f.units m := by
  have hge : ¬m < f.binade := fun hlt => by
    rw [Nat.div_eq_of_lt hlt] at hm
    omega
  rw [units, if_neg hge]
  exact Nat.mul_le_mul_right _ (Nat.le_add_right _ _)

/-- **Greater magnitudes have greater values.** -/
theorem strictMono_units (f : Format) : StrictMono f.units := by
  intro m m' hlt
  rcases Nat.lt_or_eq_of_le (Nat.div_le_div_right hlt.le : m / f.binade ≤ m' / f.binade) with
    hexp | hexp
  · -- with a greater exponent the one begins where the other has ended
    have hpow : 2 ^ (m / f.binade) ≤ 2 ^ (m' / f.binade - 1) :=
      Nat.pow_le_pow_right Nat.two_pos (Nat.le_sub_one_of_lt hexp)
    calc f.units m
        _ < f.binade * 2 ^ (m / f.binade) := f.units_lt_of_div m
        _ ≤ f.binade * 2 ^ (m' / f.binade - 1) := Nat.mul_le_mul_left _ hpow
        _ ≤ f.units m' := f.le_units_of_div (Nat.zero_lt_of_lt hexp)
  · have hfraction : m % f.binade < m' % f.binade := by
      have h := Nat.div_add_mod m f.binade
      have h' := Nat.div_add_mod m' f.binade
      rw [hexp] at h
      omega
    have hbinade : m < f.binade ↔ m' < f.binade := by
      rw [← Nat.div_eq_zero_iff_lt f.binade_pos, ← Nat.div_eq_zero_iff_lt f.binade_pos, hexp]
    rw [units, units]
    by_cases hm : m < f.binade
    · rw [if_pos hm, if_pos (hbinade.mp hm)]
      exact hlt
    · rw [if_neg hm, if_neg (mt hbinade.mpr hm), hexp]
      exact Nat.mul_lt_mul_of_pos_right (Nat.add_lt_add_left hfraction _) (Nat.two_pow_pos _)

/-- The value of a key: that of its magnitude, with its sign. -/
def unitsOfKey (f : Format) (key : Int) : Int :=
  if key < 0 then -(f.units key.natAbs : Int) else f.units key.natAbs

theorem strictMono_unitsOfKey (f : Format) : StrictMono f.unitsOfKey := by
  intro k k' hlt
  have hzero : f.units 0 = 0 := by
    rw [units, if_pos f.binade_pos]
  have hmono {m m' : Nat} (h : m < m') : f.units m < f.units m' := f.strictMono_units h
  rw [unitsOfKey, unitsOfKey]
  split <;> split
  · have h := hmono (show k'.natAbs < k.natAbs by omega)
    omega
  · have h := hmono (show 0 < k.natAbs by omega)
    omega
  · omega
  · have h := hmono (show k.natAbs < k'.natAbs by omega)
    omega

end Format

/-! ### Numbers of 32 bits -/

namespace Binary32

variable {x y : Binary32}

/-- The exact value of a number as a multiple of the least positive one, with the infinities beyond
all multiples; none for what is not a number. -/
def value? (x : Binary32) : Option (WithBot (WithTop Int)) :=
  if x.isNaN then none
  else if x.isFinite then some ((x.units : WithTop Int) : WithBot (WithTop Int))
  else if x.isNegative then some ⊥
  else some ⊤

theorem value?_eq_none_iff : x.value? = none ↔ x.isNaN = true := by
  rw [value?]
  split
  · simp [*]
  · split_ifs <;> simp [*]

theorem exists_value? (hx : x.isNaN = false) : ∃ v, x.value? = some v := by
  rw [← Option.ne_none_iff_exists', Ne, value?_eq_none_iff, hx]
  exact Bool.false_ne_true

theorem isNaN_eq_false_of_value? {v : WithBot (WithTop Int)} (h : x.value? = some v) :
    x.isNaN = false := by
  rw [← Bool.not_eq_true, ← value?_eq_none_iff, h]
  exact Option.some_ne_none v

/-- The value of zero is no multiple at all. -/
theorem value?_zero : zero.value? = some 0 := by decide

theorem natAbs_key (x : Binary32) : x.key.natAbs = x.magnitude := by
  rw [key]
  split <;> omega

/-- The value of a finite number is that of its key. -/
theorem units_eq_unitsOfKey (x : Binary32) : x.units = Format.single.unitsOfKey x.key := by
  rw [units, Format.unitsOfKey, natAbs_key]
  cases hsign : x.isNegative with
  | false =>
    have hkey : x.key = x.magnitude := by rw [key, hsign]; rfl
    rw [if_neg Bool.false_ne_true, if_neg (by omega)]
  | true =>
    have hkey : x.key = -(x.magnitude : Int) := by rw [key, hsign]; rfl
    rw [if_pos rfl]
    split
    · rfl
    · -- a zero with a minus sign
      have hzero : x.magnitude = 0 := by omega
      rw [hzero]
      rfl

/-- A number is finite or an infinity, and its key says which. -/
theorem value?_cases {v : WithBot (WithTop Int)} (h : x.value? = some v) :
    (x.key.natAbs < Format.single.infinity ∧
        v = ((Format.single.unitsOfKey x.key : WithTop Int) : WithBot (WithTop Int))) ∨
      (x.key = -(Format.single.infinity : Int) ∧ v = ⊥) ∨
      (x.key = Format.single.infinity ∧ v = ⊤) := by
  rw [value?] at h
  rw [natAbs_key]
  have hlimit : x.isNaN = false → x.magnitude ≤ Format.single.infinity := by
    intro hnumber
    rw [isNaN, decide_eq_false_iff_not] at hnumber
    omega
  split_ifs at h with hnan hfinite hsign
  · rw [isFinite, decide_eq_true_iff] at hfinite
    rw [units_eq_unitsOfKey] at h
    exact .inl ⟨hfinite, (Option.some.inj h).symm⟩
  all_goals
    have hinfinity : x.magnitude = Format.single.infinity := by
      rw [isFinite, decide_eq_true_iff] at hfinite
      have hle := hlimit (Bool.not_eq_true _ ▸ hnan)
      omega
  · refine .inr (.inl ⟨?_, (Option.some.inj h).symm⟩)
    rw [key, if_pos hsign, hinfinity]
  · refine .inr (.inr ⟨?_, (Option.some.inj h).symm⟩)
    rw [key, if_neg hsign, hinfinity]

/-- **Values are in the order of the keys.** -/
theorem value_le_iff_key_le {v w : WithBot (WithTop Int)} (hv : x.value? = some v)
    (hw : y.value? = some w) : v ≤ w ↔ x.key ≤ y.key := by
  have hinfinity : 0 < Format.single.infinity := by decide
  rcases value?_cases hv with ⟨hx, rfl⟩ | ⟨hx, rfl⟩ | ⟨hx, rfl⟩ <;>
    rcases value?_cases hw with ⟨hy, rfl⟩ | ⟨hy, rfl⟩ | ⟨hy, rfl⟩
  · rw [WithBot.coe_le_coe, WithTop.coe_le_coe]
    exact (Format.strictMono_unitsOfKey _).le_iff_le
  · exact iff_of_false (by simp) (by omega)
  · exact iff_of_true (by simp) (by omega)
  · exact iff_of_true bot_le (by omega)
  · exact iff_of_true le_rfl (by omega)
  · exact iff_of_true bot_le (by omega)
  · exact iff_of_false (by simp) (by omega)
  · exact iff_of_false (by simp) (by omega)
  · exact iff_of_true le_rfl (by omega)

/-- A key other than zero tells the bits. -/
theorem eq_of_key_eq (h : x.key = y.key) (hx : x.key ≠ 0) : x = y := by
  have hbits : x.bits.toNat = y.bits.toNat := by
    have hlimit := x.bits.toNat_lt
    have hlimit' := y.bits.toNat_lt
    simp only [key, isNegative, magnitude, decide_eq_true_iff] at h hx
    omega
  cases x
  cases y
  exact congrArg mk (UInt32.toNat_inj.mp hbits)

/-- Numbers with the same key have the same value. -/
theorem value?_eq_of_key_eq (hx : x.isNaN = false) (hy : y.isNaN = false) (h : x.key = y.key) :
    x.value? = y.value? := by
  obtain ⟨v, hv⟩ := exists_value? hx
  obtain ⟨w, hw⟩ := exists_value? hy
  have hle : v ≤ w := (value_le_iff_key_le hv hw).mpr h.le
  have hge : w ≤ v := (value_le_iff_key_le hw hv).mpr h.ge
  rw [hv, hw, le_antisymm hle hge]

/-! ### The greater of two -/

/-- What the greater of two may be: what is not a number is passed over, and of two numbers with the
same value either may be taken. -/
inductive MayBeMax (x y : Binary32) : Binary32 → Prop
  | first (h : x.isNaN = false → y.isNaN = false → y.key ≤ x.key)
      (hnan : x.isNaN = true → y.isNaN = true) : MayBeMax x y x
  | second (h : x.isNaN = false → y.isNaN = false → x.key ≤ y.key)
      (hnan : y.isNaN = true → x.isNaN = true) : MayBeMax x y y

/-- The greater of two is the second only where it is a greater number. -/
theorem max_cases (hx : x.isNaN = false) (y : Binary32) :
    (x.max y = y ∧ y.isNaN = false ∧ x.key < y.key) ∨
      (x.max y = x ∧ (y.isNaN = false → y.key ≤ x.key)) := by
  rw [max, hx, if_neg Bool.false_ne_true]
  cases hy : y.isNaN with
  | true => exact .inr ⟨rfl, fun h => absurd h Bool.true_eq_false.mp⟩
  | false =>
    rw [if_neg Bool.false_ne_true]
    split
    · exact .inl ⟨rfl, rfl, by assumption⟩
    · exact .inr ⟨rfl, fun _ => by omega⟩

/-- The first of two zeros is kept, whichever sign it has. -/
example : zero.max ⟨0x80000000⟩ = zero ∧ max ⟨0x80000000⟩ zero ≠ zero := by decide

theorem mayBeMax_max (x y : Binary32) : MayBeMax x y (x.max y) := by
  cases hx : x.isNaN with
  | true =>
    rw [max, if_pos hx]
    exact .second (fun h => nomatch hx.symm.trans h) fun _ => hx
  | false =>
    rcases max_cases hx y with ⟨hmax, hy, hlt⟩ | ⟨hmax, hle⟩ <;> rw [hmax]
    · exact .second (fun _ _ => hlt.le) fun h => nomatch hy.symm.trans h
    · exact .first (fun _ => hle) fun h => nomatch hx.symm.trans h

/-! ### The greatest number of a list -/

/-- What may be found in a list from the front on, by taking the greater of two each time. -/
inductive MayBeGreatest (start : Binary32) : List Binary32 → Binary32 → Prop
  | nil : MayBeGreatest start [] start
  | concat {xs : List Binary32} {x m m' : Binary32} (h : MayBeGreatest start xs m)
      (hmax : MayBeMax m x m') : MayBeGreatest start (xs ++ [x]) m'

/-- `m` is one of the greatest among `start` and the numbers of a list. -/
structure IsGreatestFrom (start : Binary32) (xs : List Binary32) (m : Binary32) : Prop where
  isNaN_eq : m.isNaN = false
  start_le : start.key ≤ m.key
  le : ∀ x ∈ xs, x.isNaN = false → x.key ≤ m.key
  attained : m = start ∨ m ∈ xs

variable {start m m' : Binary32} {xs ys : List Binary32}

/-- One more at the end. -/
theorem IsGreatestFrom.concat (h : IsGreatestFrom start xs m) {x : Binary32}
    (hmax : MayBeMax m x m') : IsGreatestFrom start (xs ++ [x]) m' := by
  have hm := h.isNaN_eq
  cases hmax with
  | first hle =>
    refine ⟨hm, h.start_le, ?_, h.attained.imp_right (List.mem_append_left _)⟩
    intro y hy hnumber
    rcases List.mem_append.mp hy with hy | hy
    · exact h.le y hy hnumber
    · rw [List.mem_singleton.mp hy] at hnumber ⊢
      exact hle hm hnumber
  | second hle hnan =>
    have hx : m'.isNaN = false := by
      rw [← Bool.not_eq_true]
      intro hx
      rw [hnan hx] at hm
      cases hm
    refine ⟨hx, h.start_le.trans (hle hm hx), ?_, .inr List.mem_concat_self⟩
    intro y hy hnumber
    rcases List.mem_append.mp hy with hy | hy
    · exact (h.le y hy hnumber).trans (hle hm hx)
    · rw [List.mem_singleton.mp hy]

/-- **What is found is one of the greatest**, whichever of two is taken at each step. -/
theorem MayBeGreatest.isGreatestFrom (hstart : start.isNaN = false) (h : MayBeGreatest start xs m) :
    IsGreatestFrom start xs m := by
  induction h with
  | nil => exact ⟨hstart, le_rfl, fun x hx => absurd hx List.not_mem_nil, .inl rfl⟩
  | concat _ hmax ih => exact ih.concat hmax

theorem IsGreatestFrom.key_le_of_subset (h : IsGreatestFrom start xs m)
    (h' : IsGreatestFrom start ys m') (hsub : xs ⊆ ys) : m.key ≤ m'.key := by
  rcases h.attained with rfl | hm
  · exact h'.start_le
  · exact h'.le m (hsub hm) h.isNaN_eq

theorem IsGreatestFrom.key_eq (h : IsGreatestFrom start xs m) (h' : IsGreatestFrom start ys m')
    (hmem : ∀ x, x ∈ xs ↔ x ∈ ys) : m.key = m'.key :=
  le_antisymm (h.key_le_of_subset h' fun x => (hmem x).mp)
    (h'.key_le_of_subset h fun x => (hmem x).mpr)

/-- The greatest among the same members have the same value. -/
theorem IsGreatestFrom.value?_eq (h : IsGreatestFrom start xs m) (h' : IsGreatestFrom start ys m')
    (hmem : ∀ x, x ∈ xs ↔ x ∈ ys) : m.value? = m'.value? :=
  value?_eq_of_key_eq h.isNaN_eq h'.isNaN_eq (h.key_eq h' hmem)

theorem mayBeGreatest_foldl_max (start : Binary32) (xs : List Binary32) :
    MayBeGreatest start xs (xs.foldl max start) := by
  induction xs using List.reverseRecOn with
  | nil => exact .nil
  | append_singleton xs x ih =>
    rw [List.foldl_append]
    exact ih.concat (mayBeMax_max _ x)

/-- With `max` the start is left only for a greater number. -/
theorem foldl_max_eq_start (hstart : start.isNaN = false)
    (hkey : (xs.foldl max start).key ≤ start.key) : xs.foldl max start = start := by
  induction xs using List.reverseRecOn with
  | nil => rfl
  | append_singleton xs x ih =>
    have hbefore := (mayBeGreatest_foldl_max start xs).isGreatestFrom hstart
    rw [List.foldl_append] at hkey ⊢
    change ((xs.foldl max start).max x).key ≤ _ at hkey
    show (xs.foldl max start).max x = start
    rcases max_cases hbefore.isNaN_eq x with ⟨hmax, -, hlt⟩ | ⟨hmax, -⟩ <;> rw [hmax] at hkey ⊢
    · have hle := hbefore.start_le
      omega
    · exact ih hkey

/-- **With `max` the same members have the same greatest number**, bit by bit: a number that is
greater than a start of zero or above is neither of the zeros. -/
theorem foldl_max_eq_of_mem_iff (hstart : start.isNaN = false) (hkey : 0 ≤ start.key)
    (hmem : ∀ x, x ∈ xs ↔ x ∈ ys) : xs.foldl max start = ys.foldl max start := by
  have hxs := (mayBeGreatest_foldl_max start xs).isGreatestFrom hstart
  have hys := (mayBeGreatest_foldl_max start ys).isGreatestFrom hstart
  have heq := hxs.key_eq hys hmem
  rcases hxs.start_le.lt_or_eq with hlt | hsame
  · exact eq_of_key_eq heq (by omega)
  · rw [foldl_max_eq_start hstart (by omega), foldl_max_eq_start hstart (by omega)]

end Binary32

end StyledText.Number
