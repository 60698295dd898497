import StyledText.Proofs.Number.Value
import StyledText.Stylesheet.Storyboard

/-!
# The duration of a storyboard

The duration of a storyboard is **the time of its latest keyframe**, by exact values, and zero where
no time is above zero.  Times that are not numbers are passed over wherever they stand.  The keyframes
are gone through in the order in which they are written, and the two zeros and the times that are
not numbers are told apart by their bits; but the duration is the same, to the bit, however the
targets, the animations of a target and the keyframes of an animation are reordered.  Were the later
of two zeros kept now and then, and not the first, its value would be the same still.

* `Storyboard.HasTime` — the times of the keyframes, at any depth.
* `Storyboard.Reordered` — storyboards that differ in the orders, at any depth.
* `Storyboard.MayLast` — the durations that there can be, whichever of two zeros is kept.
* `Storyboard.duration_latest` — what the duration is.
-/

namespace StyledText.Stylesheet

open Number

/-! ### Orders -/

/-- The rows have the same members up to `R`, in whatever order. -/
def ReorderedBy {α : Type} (R : α → α → Prop) (xs ys : List α) : Prop :=
  ∃ zs, xs.Perm zs ∧ List.Forall₂ R zs ys

/-- What is collected from reordered members is reordered. -/
theorem ReorderedBy.flatMap_perm {α β : Type} {R : α → α → Prop} {xs ys : List α} {f : α → List β}
    (h : ReorderedBy R xs ys) (hR : ∀ {x y}, R x y → (f x).Perm (f y)) :
    (xs.flatMap f).Perm (ys.flatMap f) := by
  obtain ⟨zs, hperm, hzs⟩ := h
  refine (hperm.flatMap_right f).trans ?_
  clear hperm
  induction hzs with
  | nil => exact .refl _
  | cons hxy _ ih =>
    rw [List.flatMap_cons, List.flatMap_cons]
    exact (hR hxy).append ih

/-- Two animations that differ in the order of the keyframes. -/
structure Animation.Reordered (a a' : Animation) : Prop where
  property : a.property = a'.property
  navigation : a.navigation = a'.navigation
  keyframes : a.keyframes.Perm a'.keyframes

/-- Two targets that differ in the order of the animations and of the keyframes in them. -/
structure StoryboardTarget.Reordered (t t' : StoryboardTarget) : Prop where
  selector : t.selector = t'.selector
  filter : t.filter = t'.filter
  animations : ReorderedBy Animation.Reordered t.animations t'.animations

namespace Storyboard

/-- Two storyboards that differ in the order of the targets, of the animations in them and of the
keyframes in those. -/
structure Reordered (s s' : Storyboard) : Prop where
  name : s.name = s'.name
  loopBehavior : s.loopBehavior = s'.loopBehavior
  targets : ReorderedBy StoryboardTarget.Reordered s.targets s'.targets

/-- The keyframes are the same in whatever order. -/
theorem Reordered.keyframes_perm {s s' : Storyboard} (h : s.Reordered s') :
    s.keyframes.Perm s'.keyframes := by
  apply h.targets.flatMap_perm
  intro t t' ht
  apply ht.animations.flatMap_perm
  intro a a' ha
  exact ha.keyframes

/-! ### Times -/

/-- Some keyframe of some animation of some target is at the time. -/
def HasTime (s : Storyboard) (time : Binary32) : Prop :=
  ∃ t ∈ s.targets, ∃ a ∈ t.animations, ∃ k ∈ a.keyframes, k.time = time

/-- The times of the keyframes, in the order in which they are written. -/
def times (s : Storyboard) : List Binary32 := s.keyframes.map fun k => k.time

variable {s s' : Storyboard}

theorem mem_times {time : Binary32} : time ∈ s.times ↔ s.HasTime time := by
  simp only [times, keyframes, List.mem_map, List.mem_flatMap, HasTime]
  constructor
  · rintro ⟨k, ⟨t, ht, a, ha, hk⟩, htime⟩
    exact ⟨t, ht, a, ha, k, hk, htime⟩
  · rintro ⟨t, ht, a, ha, k, hk, htime⟩
    exact ⟨k, ⟨t, ht, a, ha, hk⟩, htime⟩

/-- What the duration may be, whichever of two times of equal value is kept at each step. -/
def MayLast (s : Storyboard) (time : Binary32) : Prop := Binary32.MayBeGreatest .zero s.times time

theorem mayLast_duration (s : Storyboard) : s.MayLast s.duration :=
  Binary32.mayBeGreatest_foldl_max .zero s.times

theorem MayLast.isGreatestFrom {time : Binary32} (h : s.MayLast time) :
    Binary32.IsGreatestFrom .zero s.times time :=
  Binary32.MayBeGreatest.isGreatestFrom (by decide) h

theorem Reordered.times_mem_iff (h : s.Reordered s') (time : Binary32) :
    time ∈ s.times ↔ time ∈ s'.times :=
  (h.keyframes_perm.map _).mem_iff

theorem Reordered.duration_eq (h : s.Reordered s') : s.duration = s'.duration :=
  Binary32.foldl_max_eq_of_mem_iff (by decide) (by decide) h.times_mem_iff

/-- What the duration may be is a number, not below zero. -/
theorem MayLast.exists_value {d : Binary32} (h : s.MayLast d) : ∃ v, d.value? = some v ∧ 0 ≤ v := by
  obtain ⟨v, hv⟩ := Binary32.exists_value? h.isGreatestFrom.isNaN_eq
  refine ⟨v, hv, ?_⟩
  rw [Binary32.value_le_iff_key_le Binary32.value?_zero hv]
  exact h.isGreatestFrom.start_le

theorem MayLast.eq_zero_or_hasTime {d : Binary32} (h : s.MayLast d) : d = .zero ∨ s.HasTime d :=
  h.isGreatestFrom.attained.imp_right mem_times.mp

/-- What the duration may be has no time above it. -/
theorem MayLast.value_le {d time : Binary32} (h : s.MayLast d) {v w : WithBot (WithTop Int)}
    (hv : d.value? = some v) (htime : s.HasTime time) (hw : time.value? = some w) : w ≤ v := by
  rw [Binary32.value_le_iff_key_le hw hv]
  exact h.isGreatestFrom.le time (mem_times.mpr htime) (Binary32.isNaN_eq_false_of_value? hw)

/-- The value is zero where no time is above zero. -/
theorem MayLast.value?_eq_zero_iff {d : Binary32} (h : s.MayLast d) :
    d.value? = some 0 ↔ ∀ time w, s.HasTime time → time.value? = some w → w ≤ 0 := by
  constructor
  · intro hzero time w htime hw
    exact h.value_le hzero htime hw
  · intro hle
    obtain ⟨v, hv, hge⟩ := h.exists_value
    rcases h.eq_zero_or_hasTime with rfl | htime
    · exact Binary32.value?_zero
    · rw [hv, le_antisymm (hle d v htime hv) hge]

/-- The duration is zero, with a plus sign, as soon as its value is. -/
theorem duration_eq_zero_iff : s.duration = .zero ↔ s.duration.value? = some 0 := by
  constructor
  · intro hzero
    rw [hzero]
    exact Binary32.value?_zero
  · intro hzero
    exact Binary32.foldl_max_eq_start (by decide)
      ((Binary32.value_le_iff_key_le hzero Binary32.value?_zero).mp le_rfl)

/-- **The duration is the time of the latest keyframe.**  It is a number, not below zero and not
below the time of any keyframe; it is zero or such a time, and zero exactly when no time is above
zero.  No order changes it.  Whichever of two zeros were kept instead, the value would be zero just
then, and be the same in all orders. -/
theorem duration_latest (s : Storyboard) :
    (∃ v, s.duration.value? = some v ∧ 0 ≤ v ∧
      ∀ time w, s.HasTime time → time.value? = some w → w ≤ v) ∧
    (s.duration = .zero ∨ s.HasTime s.duration) ∧
    (s.duration = .zero ↔ ∀ time w, s.HasTime time → time.value? = some w → w ≤ 0) ∧
    (∀ s', s.Reordered s' → s'.duration = s.duration) ∧
    s.MayLast s.duration ∧
    ∀ d, s.MayLast d → (d = .zero ∨ s.HasTime d) ∧
      (d.value? = some 0 ↔ ∀ time w, s.HasTime time → time.value? = some w → w ≤ 0) ∧
      ∀ s' d', s.Reordered s' → s'.MayLast d' → d'.value? = d.value? := by
  have hlast := s.mayLast_duration
  refine ⟨?_, hlast.eq_zero_or_hasTime, ?_, fun s' h => h.duration_eq.symm, hlast, fun d hd => ?_⟩
  · obtain ⟨v, hv, hge⟩ := hlast.exists_value
    exact ⟨v, hv, hge, fun time w htime hw => hlast.value_le hv htime hw⟩
  · exact duration_eq_zero_iff.trans hlast.value?_eq_zero_iff
  · refine ⟨hd.eq_zero_or_hasTime, hd.value?_eq_zero_iff, fun s' d' hreordered hd' => ?_⟩
    exact hd'.isGreatestFrom.value?_eq hd.isGreatestFrom fun time =>
      (hreordered.times_mem_iff time).symm

/-- Two and a half seconds, in two orders, among times below zero and what is not a number.  Where
the only time is a zero with a minus sign, that may be the duration; its value is the same. -/
theorem duration_latest_two_orders :
    let keyframe (bits : UInt32) : Keyframe := ⟨⟨bits⟩, "0", none⟩
    let animation (keyframes : List Keyframe) : Animation := ⟨⟨none, "Opacity"⟩, none, keyframes⟩
    let target (animations : List Animation) : StoryboardTarget := ⟨none, ["Control"], animations⟩
    let unset := keyframe 0x7FC00000
    let never := keyframe 0xFF800000
    let early := keyframe 0xBF800000
    let start := keyframe 0x80000000
    let late := keyframe 0x40200000
    let s : Storyboard := ⟨"fade", .once,
      [target [animation [late, unset], animation [early]], target [animation [never, start]]]⟩
    let s' : Storyboard := ⟨"fade", .once,
      [target [animation [never, start]], target [animation [early], animation [unset, late]]]⟩
    let still : Storyboard := ⟨"still", .once, [target [animation [start]]]⟩
    s.Reordered s' ∧ s.duration = late.time ∧ s'.duration = late.time ∧
      still.duration = .zero ∧ start.time ≠ .zero ∧ still.MayLast start.time ∧
      start.time.value? = some 0 := by
  intro keyframe animation target unset never early start late s s' still
  have hlate : (animation [late, unset]).Reordered (animation [unset, late]) :=
    ⟨rfl, rfl, .swap _ _ _⟩
  have hsame (keyframes : List Keyframe) :
      (animation keyframes).Reordered (animation keyframes) := ⟨rfl, rfl, .refl _⟩
  have hfirst : (target [animation [late, unset], animation [early]]).Reordered
      (target [animation [early], animation [unset, late]]) :=
    ⟨rfl, rfl, _, .swap _ _ _, .cons (hsame _) (.cons hlate .nil)⟩
  have hsecond : (target [animation [never, start]]).Reordered (target [animation [never, start]]) :=
    ⟨rfl, rfl, _, .refl _, .cons (hsame _) .nil⟩
  have hreordered : s.Reordered s' :=
    ⟨rfl, rfl, _, .swap _ _ _, .cons hsecond (.cons hfirst .nil)⟩
  have hduration : s.duration = late.time := by decide
  obtain ⟨-, -, -, horder, -⟩ := s.duration_latest
  have hstill : still.duration = .zero := by decide
  -- of two zeros either may be taken
  have hmax : Binary32.MayBeMax .zero start.time start.time :=
    .second (by decide) (by decide)
  have hstart : still.MayLast start.time := .concat .nil hmax
  obtain ⟨-, -, hzero, -, -, hmay⟩ := still.duration_latest
  obtain ⟨-, hvalue, -⟩ := hmay start.time hstart
  exact ⟨hreordered, hduration, (horder s' hreordered).trans hduration, hstill, by decide, hstart,
    hvalue.mpr (hzero.mp hstill)⟩

end Storyboard

end StyledText.Stylesheet
