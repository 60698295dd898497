import Mathlib

/-!
# Interning

A registry gives an index to whatever is registered in it, and the same index again to what has the
same **key**.  Of the entries with one key only the first is kept, so the entries are the
registrations since the last clearing with later ones of the same key left out.

* `firstsBy` — the entries that are kept, with `map_firstsBy` and `find?_firstsBy`: their keys, and
  what is found under a key.
* `internBy`, `firstsBy_concat` — how one more entry is registered.
* `run_interned` — what any calls leave behind, and that the indices they handed out stay.
* `Alike` — two registries that hand out the same indices.
* `IndexTable`, `IndexTable.Indexes` — the entries with a hash map beside them from keys to indices.
  The map is the inverse of the list, and registering keeps it so.
* `TableOf.register` — such a table hands out the indices of a registry without one.
-/

namespace StyledText.Interning

variable {ε κ ι σ τ : Type}

/-! ### The first of each key -/

section Keys

variable [BEq κ] (key : ε → κ)

/-- Of the entries with one key, the first. -/
def firstsBy (entries : List ε) : List ε :=
  entries.eraseDupsBy fun entry old => key entry == key old

/-- Registers an entry in a list: its index, and the list after.  An entry whose key is there
already gets the index of that key and is not added. -/
def internBy (entries : List ε) (entry : ε) : Nat × List ε :=
  match entries.findIdx? fun old => key old == key entry with
  | some index => (index, entries)
  | none => (entries.length, entries ++ [entry])

theorem snd_internBy (entries : List ε) (entry : ε) :
    (internBy key entries entry).2 =
      if entries.any fun old => key old == key entry then entries else entries ++ [entry] := by
  rw [internBy, ← List.findIdx?_isSome]
  cases entries.findIdx? fun old => key old == key entry <;> rfl

/-- An entry is added behind all others or not at all. -/
theorem prefix_internBy (entries : List ε) (entry : ε) :
    entries <+: (internBy key entries entry).2 := by
  rw [snd_internBy]
  split
  · exact List.prefix_refl entries
  · exact List.prefix_append entries [entry]

variable {key}

/-- Entries in another form, with another kind of key, are registered alike where the keys tell the
new entry from the old ones alike. -/
theorem internBy_map {κ' : Type} [BEq κ'] {key' : τ → κ'} {form : ε → τ} {entries : List ε}
    {entry : ε} (h : ∀ old ∈ entries, (key' (form old) == key' (form entry)) = (key old == key entry)) :
    internBy key' (entries.map form) (form entry) =
      Prod.map id (List.map form) (internBy key entries entry) := by
  have hfind : (entries.map form).findIdx? (fun old => key' old == key' (form entry)) =
      entries.findIdx? fun old => key old == key entry := by
    rw [List.findIdx?_map]
    induction entries with
    | nil => rfl
    | cons first rest ih =>
      rw [List.findIdx?_cons, List.findIdx?_cons, ih fun old hold => h old (.tail _ hold)]
      show (if (key' (form first) == _) = true then _ else _) = _
      rw [h first (.head _)]
  rw [internBy, internBy, hfind]
  cases entries.findIdx? fun old => key old == key entry with
  | some index => rfl
  | none => simp

variable [EquivBEq κ]

/-- Registering one more entry, told of the list of all registrations. -/
theorem firstsBy_concat (entries : List ε) (entry : ε) :
    firstsBy key (entries ++ [entry]) = (internBy key (firstsBy key entries) entry).2 := by
  -- what the loop has kept is a list in reverse, and the entry is compared with all of it at last
  have hloop (kept : List ε) :
      List.eraseDupsBy.loop (fun entry old => key entry == key old) (entries ++ [entry]) kept =
        (internBy key (List.eraseDupsBy.loop (fun entry old => key entry == key old) entries kept)
          entry).2 := by
    induction entries generalizing kept with
    | nil =>
      rw [snd_internBy, List.nil_append, List.eraseDupsBy.loop, List.eraseDupsBy.loop,
        List.any_reverse]
      simp only [BEq.comm (a := key entry)]
      cases kept.any fun old => key old == key entry with
      | true => rfl
      | false => exact List.reverse_cons
    | cons first rest ih =>
      rw [List.cons_append, List.eraseDupsBy.loop, List.eraseDupsBy.loop]
      cases kept.any fun old => key first == key old with
      | true => exact ih kept
      | false => exact ih (first :: kept)
  exact hloop []

/-- The keys of the entries are all keys, each where it came first. -/
theorem map_firstsBy (entries : List ε) :
    (firstsBy key entries).map key = (entries.map key).eraseDups := by
  show _ = firstsBy id (entries.map key)
  induction entries using List.reverseRecOn with
  | nil => rfl
  | append_singleton entries entry ih =>
    rw [List.map_append, List.map_singleton, firstsBy_concat, firstsBy_concat, snd_internBy,
      snd_internBy, ← ih, List.any_map]
    show _ = if (firstsBy key entries).any (fun old => key old == key entry) then _ else _
    rw [apply_ite (List.map key), List.map_append]
    rfl

/-- **Later registrations are added behind**, so that no index comes to mean something else. -/
theorem firstsBy_prefix (entries later : List ε) :
    firstsBy key entries <+: firstsBy key (entries ++ later) := by
  induction later generalizing entries with
  | nil => rw [List.append_nil]
  | cons entry later ih =>
    have hnext := ih (entries ++ [entry])
    rw [firstsBy_concat, List.append_assoc] at hnext
    exact (prefix_internBy key _ entry).trans hnext

/-- No two entries have one key. -/
theorem pairwise_firstsBy (entries : List ε) :
    (firstsBy key entries).Pairwise fun old new => (key old == key new) = false := by
  induction entries using List.reverseRecOn with
  | nil => exact List.Pairwise.nil
  | append_singleton entries entry ih =>
    rw [firstsBy_concat, snd_internBy]
    split
    · exact ih
    · rename_i hnew
      rw [List.any_eq_true] at hnew
      refine List.pairwise_append.2 ⟨ih, List.pairwise_singleton _ _, ?_⟩
      intro old hold new hmem
      rw [List.mem_singleton.1 hmem]
      exact Bool.eq_false_iff.2 fun hsame => hnew ⟨old, hold, hsame⟩

/-- **What is found under a key is the first that came with it.** -/
theorem find?_firstsBy (entries : List ε) (k : κ) :
    (firstsBy key entries).find? (fun entry => key entry == k) =
      entries.find? fun entry => key entry == k := by
  induction entries using List.reverseRecOn with
  | nil => rfl
  | append_singleton entries entry ih =>
    rw [firstsBy_concat, snd_internBy, List.find?_append, ← ih]
    split
    · rename_i hany
      -- an entry that was left out is found only where another of its key is found before
      cases hk : key entry == k with
      | false => rw [List.find?_singleton, hk]; simp
      | true =>
        have hsome : ((firstsBy key entries).find? fun old => key old == k).isSome = true := by
          rw [List.find?_isSome]
          obtain ⟨old, hold, hsame⟩ := List.any_eq_true.1 hany
          exact ⟨old, hold, BEq.trans hsame hk⟩
        exact (Option.or_of_isSome hsome).symm
    · exact List.find?_append

/-- Where no two entries have one key, the entry of an index is the one found under its key. -/
theorem findIdx?_eq_some_iff {entries : List ε} {k : κ} {index : Nat}
    (h : entries.Pairwise fun old new => (key old == key new) = false) :
    entries.findIdx? (fun entry => key entry == k) = some index ↔
      ∃ entry, entries[index]? = some entry ∧ (key entry == k) = true := by
  rw [List.findIdx?_eq_some_iff_getElem]
  constructor
  · intro hfirst
    obtain ⟨hlt, hkey, -⟩ := hfirst
    exact ⟨_, List.getElem?_eq_getElem hlt, hkey⟩
  · intro hentry
    obtain ⟨entry, hget, hkey⟩ := hentry
    obtain ⟨hlt, rfl⟩ := List.getElem?_eq_some_iff.1 hget
    refine ⟨hlt, hkey, fun earlier hearlier hsame => ?_⟩
    have hdistinct :=
      List.pairwise_iff_getElem.1 h earlier index (hearlier.trans hlt) hlt hearlier
    rw [BEq.congr_left hsame, BEq.symm hkey] at hdistinct
    cases hdistinct

/-- The index that an entry is given is that of its key, from then on. -/
theorem findIdx?_internBy (entries : List ε) (entry : ε) :
    (internBy key entries entry).2.findIdx? (fun old => key old == key entry) =
      some (internBy key entries entry).1 := by
  rw [internBy]
  cases hfound : entries.findIdx? fun old => key old == key entry with
  | some index => exact hfound
  | none =>
    show (entries ++ [entry]).findIdx? _ = some entries.length
    rw [List.findIdx?_append, hfound, List.findIdx?_singleton, BEq.rfl]
    simp

end Keys

/-! ### Calls in a row -/

/-- A call to a registry. -/
inductive Call (ε : Type) where
  | register (entry : ε)
  | clear
deriving DecidableEq

/-- What was registered since the last clearing, in order. -/
def sinceClear (calls : List (Call ε)) : List ε :=
  calls.foldl (fun entries call => match call with
    | .register entry => entries ++ [entry]
    | .clear => []) []

section Run

variable (register : σ → ε → ι × σ) (empty : σ)

/-- One more call: the registrations since the last clearing with the indices that were handed out,
and the registry. -/
def next (past : List (ε × ι) × σ) : Call ε → List (ε × ι) × σ
  | .register entry =>
    let (index, after) := register past.2 entry
    (past.1 ++ [(entry, index)], after)
  | .clear => ([], empty)

/-- Calls in a row, to an empty registry. -/
def run (calls : List (Call ε)) : List (ε × ι) × σ := calls.foldl (next register empty) ([], empty)

theorem run_concat (calls : List (Call ε)) (call : Call ε) :
    run register empty (calls ++ [call]) = next register empty (run register empty calls) call := by
  rw [run, List.foldl_append]
  rfl

theorem sinceClear_concat_register (calls : List (Call ε)) (entry : ε) :
    sinceClear (calls ++ [.register entry]) = sinceClear calls ++ [entry] := by
  rw [sinceClear, List.foldl_append]
  rfl

theorem sinceClear_concat_clear (calls : List (Call ε)) : sinceClear (calls ++ [.clear]) = [] := by
  rw [sinceClear, List.foldl_append]
  rfl

theorem sinceClear_append_register (calls : List (Call ε)) (later : List ε) :
    sinceClear (calls ++ later.map .register) = sinceClear calls ++ later := by
  induction later generalizing calls with
  | nil => rw [List.map_nil, List.append_nil, List.append_nil]
  | cons entry later ih =>
    rw [List.map_cons, List.append_cons, ih, sinceClear_concat_register, ← List.append_cons]

end Run

/-- **What calls leave behind.**  Where registering is `internBy` on the entries of a registry, the
entries after any calls are the first ones of each key since the last clearing, and every index that
was handed out since then is still the index of the key it was handed out for. -/
theorem run_interned [BEq κ] [EquivBEq κ] (key : τ → κ) (entryOf : ε → τ) (entries : σ → List τ)
    {register : σ → ε → Nat × σ} {empty : σ} (hempty : entries empty = [])
    (hregister : ∀ s entry, ((register s entry).1, entries (register s entry).2) =
      internBy key (entries s) (entryOf entry)) (calls : List (Call ε)) :
    (run register empty calls).1.map Prod.fst = sinceClear calls ∧
      entries (run register empty calls).2 = firstsBy key ((sinceClear calls).map entryOf) ∧
      ∀ p ∈ (run register empty calls).1,
        (entries (run register empty calls).2).findIdx? (fun old => key old == key (entryOf p.1)) =
          some p.2 := by
  induction calls using List.reverseRecOn with
  | nil => exact ⟨rfl, hempty, fun p hp => nomatch hp⟩
  | append_singleton calls call ih =>
    obtain ⟨hlog, hentries, hindices⟩ := ih
    rw [run_concat]
    cases call with
    | clear =>
      rw [sinceClear_concat_clear]
      exact ⟨rfl, hempty, fun p hp => nomatch hp⟩
    | register entry =>
      rw [sinceClear_concat_register, List.map_append]
      have hindex := congrArg Prod.fst (hregister (run register empty calls).2 entry)
      have hafter := congrArg Prod.snd (hregister (run register empty calls).2 entry)
      refine ⟨?_, ?_, ?_⟩
      · show List.map Prod.fst (_ ++ [_]) = _
        rw [List.map_append, hlog]
        rfl
      · show entries (register (run register empty calls).2 entry).2 = _
        rw [List.map_singleton, firstsBy_concat, ← hentries]
        exact hafter
      · intro p hp
        show (entries (register (run register empty calls).2 entry).2).findIdx? _ = some p.2
        rw [show entries (register (run register empty calls).2 entry).2 = _ from hafter]
        obtain hold | hnew := List.mem_append.1 hp
        · exact (prefix_internBy key _ _).findIdx?_eq_some (hindices p hold)
        · obtain rfl := List.mem_singleton.1 hnew
          rw [show (register (run register empty calls).2 entry).1 = _ from hindex]
          exact findIdx?_internBy _ _

/-! ### Two registries side by side -/

section SideBySide

variable {σ' ι' : Type} {register : σ → ε → ι × σ} {empty : σ} {register' : σ' → ε → ι' × σ'}
  {empty' : σ'} (related : σ → σ' → Prop) (form : ι → ι')

/-- Two registries have handed out the same indices, in two forms, and are still related. -/
def Alike (past : List (ε × ι) × σ) (past' : List (ε × ι') × σ') : Prop :=
  past'.1 = past.1.map (Prod.map id form) ∧ related past.2 past'.2

variable {related}

/-- One call to both. -/
theorem Alike.next {form : ι → ι'} {past : List (ε × ι) × σ} {past' : List (ε × ι') × σ'}
    (h : Alike related form past past') (hempty : related empty empty') (call : Call ε)
    (hregister : ∀ entry, call = .register entry →
      (register' past'.2 entry).1 = form (register past.2 entry).1 ∧
        related (register past.2 entry).2 (register' past'.2 entry).2) :
    Alike related form (next register empty past call) (next register' empty' past' call) := by
  cases call with
  | clear => exact ⟨rfl, hempty⟩
  | register entry =>
    obtain ⟨hindex, hafter⟩ := hregister entry rfl
    refine ⟨?_, hafter⟩
    show past'.1 ++ [(entry, (register' past'.2 entry).1)] = List.map _ (past.1 ++ [_])
    rw [h.1, hindex, List.map_append]
    rfl

/-- Registries that register alike stay alike over any calls. -/
theorem alike_run (hempty : related empty empty')
    (hregister : ∀ s s' entry, related s s' → (register' s' entry).1 = form (register s entry).1 ∧
      related (register s entry).2 (register' s' entry).2) (calls : List (Call ε)) :
    Alike related form (run register empty calls) (run register' empty' calls) := by
  induction calls using List.reverseRecOn with
  | nil => exact ⟨rfl, hempty⟩
  | append_singleton calls call ih =>
    rw [run_concat, run_concat]
    exact ih.next hempty call fun entry _ => hregister _ _ entry ih.2

/-- Indices that fit in 32 bits are the same as numbers. -/
theorem Alike.map_toNat {related : σ → σ' → Prop}
    {past : List (ε × Nat) × σ} {past' : List (ε × UInt32) × σ'}
    (h : Alike related UInt32.ofNat past past') (hlt : ∀ p ∈ past.1, p.2 < UInt32.size) :
    past'.1.map (Prod.map id UInt32.toNat) = past.1 := by
  rw [h.1, List.map_map]
  refine (List.map_congr_left fun p hp => ?_).trans past.1.map_id
  exact Prod.ext rfl (UInt32.toNat_ofNat_of_lt' (hlt p hp))

end SideBySide

/-! ### A list with a map from keys to indices -/

/-- Entries with a hash map beside them that gives the index of each key, in 32 bits. -/
structure IndexTable (κ ε : Type) [BEq κ] [Hashable κ] where
  indices : Std.HashMap κ UInt32 := ∅
  entries : List ε := []

namespace IndexTable

variable [BEq κ] [Hashable κ] (key : ε → κ)

/-- Registers an entry: its index, and the table after.  An entry whose key is in the map gets the
index that the map has and changes nothing. -/
def register (t : IndexTable κ ε) (entry : ε) : UInt32 × IndexTable κ ε :=
  match t.indices[key entry]? with
  | some index => (index, t)
  | none =>
    let index := UInt32.ofNat t.entries.length
    (index, ⟨t.indices.insert (key entry) index, t.entries ++ [entry]⟩)

/-- The map is the inverse of the list: it has for each key the index of the entry with this key,
and no other keys. -/
def Indexes (t : IndexTable κ ε) : Prop :=
  ∀ k, t.indices[k]? = (t.entries.findIdx? fun entry => key entry == k).map UInt32.ofNat

variable {key}

theorem indexes_empty : ({} : IndexTable κ ε).Indexes key := by
  intro k
  exact Std.HashMap.getElem?_empty

variable [EquivBEq κ] [LawfulHashable κ]

/-- **Registering keeps the map the inverse of the list**, and does to the list what `internBy`
does. -/
theorem Indexes.register {t : IndexTable κ ε} (h : t.Indexes key) (entry : ε) :
    (t.register key entry).1 = UInt32.ofNat (internBy key t.entries entry).1 ∧
      (t.register key entry).2.entries = (internBy key t.entries entry).2 ∧
      (t.register key entry).2.Indexes key := by
  rw [IndexTable.register, internBy, h (key entry)]
  cases hfound : t.entries.findIdx? fun old => key old == key entry with
  | some index => exact ⟨rfl, rfl, h⟩
  | none =>
    refine ⟨rfl, rfl, fun k => ?_⟩
    show (t.indices.insert (key entry) _)[k]? = ((t.entries ++ [entry]).findIdx? _).map _
    rw [Std.HashMap.getElem?_insert, h k, List.findIdx?_append, List.findIdx?_singleton]
    cases hk : key entry == k with
    | true =>
      -- the key is new, so no entry of the list before has it
      have hnone : (t.entries.findIdx? fun old => key old == k) = none := by
        rw [← hfound]
        congr 1
        funext old
        exact (BEq.congr_right hk).symm
      simp [hnone]
    | false => simp

end IndexTable

/-- A table goes with a registry that keeps the same entries, in another form. -/
structure TableOf [BEq κ] [Hashable κ] (key : ε → κ) (form : ε → τ) (entries : σ → List τ) (s : σ)
    (t : IndexTable κ ε) : Prop where
  indexes : t.Indexes key
  entries_eq : entries s = t.entries.map form

/-- **A table registers as the registry it goes with**, where the keys of both tell the new entry
from the old ones alike. -/
theorem TableOf.register {κ' : Type} [BEq κ] [Hashable κ] [EquivBEq κ] [LawfulHashable κ] [BEq κ']
    {key : ε → κ} {key' : τ → κ'} {form : ε → τ} {entries : σ → List τ} {s : σ}
    {t : IndexTable κ ε} (h : TableOf key form entries s t) (register : σ → ε → Nat × σ) {entry : ε}
    (hregister : ((register s entry).1, entries (register s entry).2) =
      internBy key' (entries s) (form entry))
    (hkeys : ∀ old ∈ t.entries, (key' (form old) == key' (form entry)) = (key old == key entry)) :
    (t.register key entry).1 = UInt32.ofNat (register s entry).1 ∧
      TableOf key form entries (register s entry).2 (t.register key entry).2 := by
  obtain ⟨htable, hafter, hkept⟩ := h.indexes.register entry
  rw [h.entries_eq, internBy_map hkeys] at hregister
  obtain ⟨hindex, hentries⟩ := Prod.mk.inj hregister
  exact ⟨htable.trans (congrArg UInt32.ofNat hindex.symm), hkept,
    hentries.trans (congrArg (List.map form) hafter.symm)⟩

end StyledText.Interning
