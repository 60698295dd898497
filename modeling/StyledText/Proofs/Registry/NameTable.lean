import StyledText.Proofs.Registry.Interning
import StyledText.Registry
import StyledText.Text.Segment

/-!
# Names and their indices

Names are handed to a registry as segments, and what counts of a segment is its text.  After any
calls a registry lists the texts that were registered since the last clearing, each once and with
the value that came with it first, and **all its questions are answered from that list**.

A `NameTable` is the same with a hash map from names to 32-bit indices beside the list, where a name
is looked up without a walk.  Segments are hashed by their texts, so pieces of different buffers
find each other, and while the indices fit in 32 bits the table answers as the registry does.

* `Registry.Lists` — what it means that a registry answers from a list.
* `NameTable.Mirrors` — what it means that a table answers as a registry.
* `Registry.run_interns` — both after any calls.
-/

namespace StyledText

open Interning Text

variable {α : Type}

/-! ### Segments as keys -/

namespace Text.Segment

/-- Equal texts have equal hashes, whatever buffers they were cut from. -/
instance : Hashable Segment where
  hash s := hash s.text

instance : EquivBEq Segment where
  rfl {s} := beq_self_eq_true s.text
  symm {s t} h := BEq.symm (a := s.text) (b := t.text) h
  trans {s t u} h h' := BEq.trans (a := s.text) (b := t.text) (c := u.text) h h'

instance : LawfulHashable Segment where
  hash_eq s t h := by
    show hash s.text = hash t.text
    rw [eq_of_beq (a := s.text) (b := t.text) h]

end Text.Segment

/-! ### The list of a registry -/

namespace Registry

/-- What a registry keeps of a segment with a value. -/
def texts (named : Segment × α) : String × α := (named.1.text, named.2)

/-- Registers a value under the text of a segment. -/
def registerSegment (r : Registry α) (named : Segment × α) : Nat × Registry α :=
  r.register named.1.text named.2

/-- A registry answers from a list of names with values, in which no name stands twice. -/
structure Lists (r : Registry α) (listed : List (String × α)) : Prop where
  nodup : (listed.map Prod.fst).Nodup
  size_eq : r.size = listed.length
  toList_eq (index : Nat) : r.toList[index]? = listed[index]?.map fun entry => (index, entry)
  name?_eq (index : Nat) : r.name? index = listed[index]?.map Prod.fst
  get?_eq (index : Nat) : r.get? index = listed[index]?.map Prod.snd
  indexOf?_eq_some_iff (name : String) (index : Nat) :
    r.indexOf? name = some index ↔ r.name? index = some name
  contains_iff (name : String) : r.contains name = true ↔ name ∈ listed.map Prod.fst
  find?_eq_some_iff (name : String) (value : α) : r.find? name = some value ↔ (name, value) ∈ listed
  /-- A known name keeps its index, and nothing changes. -/
  register_known (name : String) (value : α) (index : Nat) :
    r.name? index = some name → r.register name value = (index, r)
  /-- Another name is listed behind all others. -/
  register_new (name : String) (value : α) : name ∉ listed.map Prod.fst →
    (r.register name value).1 = listed.length ∧
      (r.register name value).2.entries = listed ++ [(name, value)]

variable {r : Registry α}

theorem indexOf?_eq_some_iff (h : (r.entries.map Prod.fst).Nodup) {name : String} {index : Nat} :
    r.indexOf? name = some index ↔ r.name? index = some name := by
  have hpairwise : r.entries.Pairwise fun old new => (old.1 == new.1) = false :=
    (List.pairwise_map.1 h).imp fun hne => beq_eq_false_iff_ne.2 hne
  rw [indexOf?, findIdx?_eq_some_iff hpairwise, name?, Option.map_eq_some_iff]
  simp only [beq_iff_eq]

theorem indexOf?_eq_none_iff {name : String} :
    r.indexOf? name = none ↔ name ∉ r.entries.map Prod.fst := by
  rw [indexOf?, List.findIdx?_eq_none_iff]
  simp only [List.mem_map, not_exists, not_and, beq_eq_false_iff_ne]

/-- **A registry without a name twice answers from its entries.** -/
theorem lists_entries (h : (r.entries.map Prod.fst).Nodup) : r.Lists r.entries where
  nodup := h
  size_eq := rfl
  toList_eq index := by
    rw [toList, List.getElem?_map, List.getElem?_zipIdx, Option.map_map, Nat.zero_add]
    rfl
  name?_eq _ := rfl
  get?_eq _ := rfl
  indexOf?_eq_some_iff _ _ := indexOf?_eq_some_iff h
  contains_iff name := by
    rw [contains, Option.isSome_iff_ne_none, ne_eq, indexOf?_eq_none_iff, Decidable.not_not]
  find?_eq_some_iff name value := by
    rw [find?, Option.bind_eq_some_iff, List.mem_iff_getElem?]
    refine exists_congr fun index => ?_
    rw [indexOf?_eq_some_iff h, name?, get?]
    cases r.entries[index]? <;> simp [Prod.ext_iff]
  register_known name value index hname :=
    register_of_indexOf?_eq_some ((indexOf?_eq_some_iff h).2 hname)
  register_new name value hname := by
    rw [register_of_indexOf?_eq_none (indexOf?_eq_none_iff.2 hname)]
    exact ⟨rfl, rfl⟩

/-- The value of a name is that of the entry which is found under the name. -/
theorem find?_eq (r : Registry α) (name : String) :
    r.find? name = (r.entries.find? fun entry => entry.1 == name).map Prod.snd := by
  rw [find?, indexOf?, List.find?_eq_bind_findIdx?_getElem?, Option.map_bind]
  rfl

/-- Registering is interning by the name. -/
theorem register_eq_internBy (r : Registry α) (entry : String × α) :
    ((r.register entry.1 entry.2).1, (r.register entry.1 entry.2).2.entries) =
      internBy Prod.fst r.entries entry := by
  rw [register, indexOf?, internBy]
  cases r.entries.findIdx? fun old => old.1 == entry.1 <;> rfl

theorem registerSegment_eq_internBy (r : Registry α) (named : Segment × α) :
    ((r.registerSegment named).1, (r.registerSegment named).2.entries) =
      internBy Prod.fst r.entries (texts named) := r.register_eq_internBy (texts named)

end Registry

/-! ### The table -/

/-- Named values that are looked up by hash. -/
abbrev NameTable (α : Type) := IndexTable Segment (Segment × α)

namespace NameTable

open Registry (texts)

variable (t : NameTable α)

def register (named : Segment × α) : UInt32 × NameTable α := IndexTable.register Prod.fst t named

/-- A text is looked up as a segment that is all of some buffer. -/
def indexOf? (name : String) : Option UInt32 := t.indices[Segment.whole ⟨0, name⟩]?

def contains (name : String) : Bool := t.indices.contains (Segment.whole ⟨0, name⟩)

def get? (index : UInt32) : Option α := t.entries[index.toNat]?.map (·.2)

def name? (index : UInt32) : Option Segment := t.entries[index.toNat]?.map (·.1)

/-- The value of a name.  The value is taken from the list at the index that the map has, and
`some none` stands for a map that points beyond the list. -/
def find? (name : String) : Option (Option α) := (t.indexOf? name).map t.get?

def size : Nat := t.entries.length

def toList : List (UInt32 × Segment × α) :=
  t.entries.zipIdx.map fun (entry, index) => (UInt32.ofNat index, entry)

/-- A table answers as a registry does.  In particular its map never points beyond its list. -/
structure Mirrors (t : NameTable α) (r : Registry α) : Prop where
  size_eq : t.size = r.size
  indexOf?_eq (name : String) : (t.indexOf? name).map UInt32.toNat = r.indexOf? name
  contains_eq (name : String) : t.contains name = r.contains name
  get?_eq (index : UInt32) : t.get? index = r.get? index.toNat
  name?_eq (index : UInt32) : (t.name? index).map Segment.text = r.name? index.toNat
  find?_eq (name : String) : t.find? name = (r.find? name).map some
  toList_eq : (t.toList.map fun (index, name, value) => (index.toNat, name.text, value)) = r.toList

variable {t}

theorem findIdx?_map_texts (entries : List (Segment × α)) (name : String) :
    (entries.map texts).findIdx? (fun entry => entry.1 == name) =
      entries.findIdx? fun entry => entry.1 == Segment.whole ⟨0, name⟩ := by
  rw [List.findIdx?_map]
  rfl

/-- **A table mirrors the registry of its entries**, as far as 32 bits go. -/
theorem mirrors_of_tableOf {r : Registry α} (h : TableOf Prod.fst texts Registry.entries r t)
    (hsize : r.size ≤ UInt32.size) : t.Mirrors r := by
  obtain ⟨hindexes, hentries⟩ := h
  have hlength : t.entries.length = r.size := by rw [Registry.size, hentries, List.length_map]
  have hindexOf (name : String) : t.indexOf? name = (r.indexOf? name).map UInt32.ofNat := by
    rw [Registry.indexOf?, hentries, findIdx?_map_texts]
    exact hindexes _
  have hbound {name : String} {index : Nat} (hindex : r.indexOf? name = some index) :
      index < r.size := (List.findIdx?_eq_some_iff_getElem.1 hindex).1
  have htoNat {index : Nat} (hlt : index < r.size) : (UInt32.ofNat index).toNat = index :=
    UInt32.toNat_ofNat_of_lt' (hlt.trans_le hsize)
  have hget (index : UInt32) : t.get? index = r.get? index.toNat := by
    rw [get?, Registry.get?, hentries, List.getElem?_map, Option.map_map]
    rfl
  refine ⟨hlength, fun name => ?_, fun name => ?_, hget, fun index => ?_, fun name => ?_, ?_⟩
  · rw [hindexOf]
    cases hindex : r.indexOf? name with
    | none => rfl
    | some index => exact congrArg some (htoNat (hbound hindex))
  · rw [contains, Std.HashMap.contains_eq_isSome_getElem?, ← indexOf?, hindexOf, Option.isSome_map]
    rfl
  · rw [name?, Registry.name?, hentries, List.getElem?_map, Option.map_map, Option.map_map]
    rfl
  · rw [find?, Registry.find?, hindexOf]
    cases hindex : r.indexOf? name with
    | none => rfl
    | some index =>
      have hlt := hbound hindex
      show some (t.get? (UInt32.ofNat index)) = (r.get? index).map some
      rw [hget, htoNat hlt]
      -- an index of the map is below the length of the list
      obtain ⟨value, hvalue⟩ := Option.ne_none_iff_exists'.1
        (mt Registry.get?_eq_none_iff.1 (Nat.not_le.2 hlt))
      rw [hvalue]
      rfl
  · refine List.ext_getElem? fun index => ?_
    rw [toList, Registry.toList, hentries, List.map_map, List.getElem?_map, List.getElem?_map,
      List.getElem?_zipIdx, List.getElem?_zipIdx, List.getElem?_map]
    by_cases hlt : index < r.size
    · rw [List.getElem?_eq_getElem (hlength ▸ hlt)]
      simp [texts, htoNat hlt]
    · rw [List.getElem?_eq_none (Nat.not_lt.1 (hlength ▸ hlt))]
      rfl

/-- A table of the entries of a registry registers as the registry does. -/
theorem registerSegment_of_tableOf (r : Registry α) (t : NameTable α) (named : Segment × α)
    (h : TableOf Prod.fst texts Registry.entries r t) :
    (t.register named).1 = UInt32.ofNat (r.registerSegment named).1 ∧
      TableOf Prod.fst texts Registry.entries (r.registerSegment named).2 (t.register named).2 := by
  refine h.register Registry.registerSegment (Registry.registerSegment_eq_internBy r named) ?_
  exact fun old _ => rfl

end NameTable

/-! ### After any calls -/

namespace Registry

open NameTable

/-- **What a registry holds after any calls**, with names cut from any buffers.  The names are those
registered since the last clearing, in the order in which they came first, each with the value that
it came with first, and all questions are answered from that list.  An index that was handed out is
the place of its name in the list and stays it until the registry is cleared.  As long as the names
can be counted in 32 bits, a table with a hash map hands out the same indices and gives the same
answers. -/
theorem run_interns (calls : List (Call (Segment × α))) :
    let registered := (sinceClear calls).map texts
    let listed := firstsBy Prod.fst registered
    let log := (run registerSegment (empty : Registry α) calls).1
    let r := (run registerSegment (empty : Registry α) calls).2
    let tableLog := (run NameTable.register ({} : NameTable α) calls).1
    let table := (run NameTable.register ({} : NameTable α) calls).2
    listed.map Prod.fst = (registered.map Prod.fst).eraseDups ∧
      r.Lists listed ∧
      (∀ name, r.find? name = (registered.find? fun entry => entry.1 == name).map Prod.snd) ∧
      log.map Prod.fst = sinceClear calls ∧
      (∀ p ∈ log, r.indexOf? p.1.1.text = some p.2) ∧
      (∀ (later : List (Segment × α)) (index : Nat), index < r.size →
        let after := (run registerSegment empty (calls ++ later.map .register)).2
        after.name? index = r.name? index ∧ after.get? index = r.get? index) ∧
      (r.size ≤ UInt32.size →
        table.Mirrors r ∧ tableLog.map (Prod.map id UInt32.toNat) = log) := by
  intro registered listed log r tableLog table
  have hrun (calls : List (Call (Segment × α))) :=
    run_interned Prod.fst texts entries (rfl : (empty : Registry α).entries = [])
      registerSegment_eq_internBy calls
  obtain ⟨hlog, hentries, hindices⟩ := hrun calls
  have hnames : listed.map Prod.fst = (registered.map Prod.fst).eraseDups := map_firstsBy registered
  have hnodup : (r.entries.map Prod.fst).Nodup := by
    rw [show r.entries = listed from hentries]
    exact List.pairwise_map.2
      ((pairwise_firstsBy registered).imp fun hne => beq_eq_false_iff_ne.1 hne)
  refine ⟨hnames, ?_, fun name => ?_, hlog, hindices, fun later index hindex => ?_, fun hsize => ?_⟩
  · have hlists := lists_entries hnodup
    rwa [show r.entries = listed from hentries] at hlists
  · rw [find?_eq, show r.entries = listed from hentries]
    exact congrArg _ (find?_firstsBy registered name)
  · -- what is registered later is listed behind
    have hlater := (hrun (calls ++ later.map .register)).2.1
    rw [sinceClear_append_register, List.map_append] at hlater
    have hprefix : listed <+: firstsBy Prod.fst (registered ++ later.map texts) :=
      firstsBy_prefix registered (later.map texts)
    obtain ⟨more, hmore⟩ := hprefix
    rw [← hmore, ← show r.entries = listed from hentries] at hlater
    show Option.map _ (entries _)[index]? = _ ∧ Option.map _ (entries _)[index]? = _
    rw [hlater, List.getElem?_append_left hindex]
    exact ⟨rfl, rfl⟩
  · have halike := alike_run UInt32.ofNat
      (⟨IndexTable.indexes_empty, rfl⟩ : TableOf Prod.fst texts entries (empty : Registry α) {})
      registerSegment_of_tableOf calls
    refine ⟨mirrors_of_tableOf halike.2 hsize, halike.map_toNat fun p hp => ?_⟩
    have hlt : p.2 < r.size := (List.findIdx?_eq_some_iff_getElem.1 (hindices p hp)).1
    exact hlt.trans_le hsize

/-- Two pieces of different buffers with one text, and one more registered before a clearing: both
get one index, and the value of the first of them stays. -/
theorem run_interns_across_buffers :
    let bold : Segment := ⟨⟨1, "in bold"⟩, 3, "bold", by decide⟩
    let calls : List (Call (Segment × Nat)) :=
      [.register (bold, 1), .clear, .register (bold, 2), .register (.whole ⟨2, "bold"⟩, 3)]
    let tableLog := (run NameTable.register ({} : NameTable Nat) calls).1
    let table := (run NameTable.register ({} : NameTable Nat) calls).2
    tableLog.map (fun p => p.2.toNat) = [0, 0] ∧ table.find? "bold" = some (some 2) := by
  intro bold calls tableLog table
  obtain ⟨-, -, -, -, -, -, htable⟩ := run_interns calls
  obtain ⟨hmirrors, hlog⟩ := htable (by decide)
  refine ⟨?_, (hmirrors.find?_eq "bold").trans (by decide)⟩
  have hindices := congrArg (List.map Prod.snd) hlog
  rw [List.map_map] at hindices
  exact hindices

end Registry

end StyledText
