import StyledText.Proofs.Registry.Interning
import StyledText.Source

/-!
# Source texts and their indices

Source texts are made, edited, held and let go, and registered in between.  A registry keeps the
sources that are registered in it until it is cleared, and gives an index to **each source, not to
each text**: what a source holds, held or comes to hold makes no difference.

Objects are told apart by their addresses.  An address is given to another object once its object is
gone, so all that can be said is that of the objects that are there at one moment no two of a kind
share an address.  A hash map from addresses to indices then tells sources apart as the registry
does, since the registered ones are all there.

* `SourceStep`, `live` — what is done to sources, and which of them are there.
* `Possible` — runs in which only sources that are there are used, with the addresses they can have.
* `text?_world` — what sources hold after a run.
* `registered_by_identity` — which indices a run hands out, and what they stand for.
-/

namespace StyledText

open Interning

/-! ### What is done to sources -/

/-- One step of a run with source texts and a registry of them. -/
inductive SourceStep where
  | newString (text : String)
  | newBuilder (text : String)
  /-- Changes the text of a builder: what `f` does to it can be anything. -/
  | edit (source : Source) (f : String → String)
  /-- Holds a source that is there, for example one taken from the registry. -/
  | hold (source : Source)
  /-- Lets a source go.  It is gone unless the registry keeps it. -/
  | release (source : Source)
  | register (source : Source)
  | clear

namespace SourceStep

/-- What a step does to the registry. -/
def call? : SourceStep → Option (Call Source)
  | .register source => some (.register source)
  | .clear => some .clear
  | _ => none

/-- The sources that must be there for a step. -/
def uses : SourceStep → List Source
  | .edit source _ | .hold source | .register source => [source]
  | _ => []

end SourceStep

namespace SourceRun

/-- What steps do to the registry. -/
def calls (steps : List SourceStep) : List (Call Source) := steps.filterMap SourceStep.call?

/-- The texts of all sources, and the sources that are held outside of the registry. -/
structure World where
  store : SourceStore := {}
  held : List Source := []

def World.next (w : World) : SourceStep → World
  | .newString text =>
    let (source, store) := w.store.newString text
    ⟨store, w.held ++ [source]⟩
  | .newBuilder text =>
    let (source, store) := w.store.newBuilder text
    ⟨store, w.held ++ [source]⟩
  | .edit source f => { w with store := w.store.edit source f }
  | .hold source => { w with held := w.held ++ [source] }
  | .release source => { w with held := w.held.filter (· ≠ source) }
  | .register _ | .clear => w

/-- The texts and the held sources after steps. -/
def world (steps : List SourceStep) : World := steps.foldl World.next {}

/-- What was registered since the last clearing with the indices that were handed out, and the
registry. -/
def registered (steps : List SourceStep) : List (Source × Nat) × SourceRegistry :=
  run SourceRegistry.register .empty (calls steps)

/-- The sources that are there after steps: those that are held, and those of the registry. -/
def live (steps : List SourceStep) : List Source :=
  (world steps).held ++ (registered steps).2.sources

/-- Of these sources no two of a kind have one address. -/
def Apart (address : Source → Nat) (sources : List Source) : Prop :=
  ∀ a ∈ sources, ∀ b ∈ sources, a.isBuilder = b.isBuilder → address a = address b → a = b

instance (address : Source → Nat) (sources : List Source) : Decidable (Apart address sources) :=
  inferInstanceAs (Decidable (∀ a ∈ sources, ∀ b ∈ sources, _ → _ → _))

/-- Steps that can be done one after another, when sources get these addresses: each step uses
sources that are there, and what is there at one moment is told apart by its addresses. -/
structure Possible (address : Source → Nat) (steps : List SourceStep) : Prop where
  uses_live (past : List SourceStep) (step : SourceStep) :
    past ++ [step] <+: steps → ∀ source ∈ step.uses, source ∈ live past
  apart (past : List SourceStep) : past <+: steps → Apart address (live past)

/-- Whether steps can be done is seen at each of them. -/
theorem possible_iff {address : Source → Nat} {steps : List SourceStep} :
    Possible address steps ↔
      (∀ i (h : i < steps.length), ∀ source ∈ steps[i].uses, source ∈ live (steps.take i)) ∧
        ∀ i ≤ steps.length, Apart address (live (steps.take i)) := by
  constructor
  · intro h
    refine ⟨fun i hi => h.uses_live (steps.take i) steps[i] ?_, fun i _ => h.apart _ ?_⟩
    · rw [List.take_append_getElem]
      exact List.take_prefix _ _
    · exact List.take_prefix _ _
  · intro h
    obtain ⟨huses, hapart⟩ := h
    constructor
    · intro past step hpast
      obtain ⟨rest, rfl⟩ := hpast
      have hlive := huses past.length (by simp)
      simpa using hlive
    · intro past hpast
      rw [List.prefix_iff_eq_take.1 hpast]
      exact hapart past.length hpast.length_le

instance (address : Source → Nat) (steps : List SourceStep) : Decidable (Possible address steps) :=
  decidable_of_iff _ possible_iff.symm

/-! ### What sources hold -/

/-- The text of each string that was made. -/
def stringsMade (steps : List SourceStep) : List String :=
  steps.filterMap fun
    | .newString text => some text
    | _ => none

/-- The first text of each builder that was made. -/
def buildersMade (steps : List SourceStep) : List String :=
  steps.filterMap fun
    | .newBuilder text => some text
    | _ => none

/-- The edits of a source, in order. -/
def editsOf (source : Source) (steps : List SourceStep) : List (String → String) :=
  steps.filterMap fun
    | .edit edited f => if edited = source then some f else none
    | _ => none

/-- What a source holds after steps: a string what it was made of, a builder what all edits made of
its first text. -/
def contentAfter (steps : List SourceStep) : Source → Option String
  | .string number => (stringsMade steps)[number]?
  | .builder number => (buildersMade steps)[number]?.map fun first =>
    (editsOf (.builder number) steps).foldl (fun text f => f text) first

variable {steps : List SourceStep} {address : Source → Nat}

theorem world_concat (steps : List SourceStep) (step : SourceStep) :
    world (steps ++ [step]) = (world steps).next step := List.foldl_concat _ _ _ _

theorem calls_concat (steps : List SourceStep) (step : SourceStep) :
    calls (steps ++ [step]) = calls steps ++ step.call?.toList := by
  rw [calls, List.filterMap_append]
  cases step <;> rfl

theorem Possible.of_concat {step : SourceStep} (h : Possible address (steps ++ [step])) :
    Possible address steps :=
  ⟨fun past step hpast => h.uses_live past step (hpast.trans (List.prefix_append _ _)),
    fun past hpast => h.apart past (hpast.trans (List.prefix_append _ _))⟩

theorem strings_world (steps : List SourceStep) :
    (world steps).store.strings = stringsMade steps := by
  induction steps using List.reverseRecOn with
  | nil => rfl
  | append_singleton steps step ih =>
    rw [world_concat, stringsMade, List.filterMap_append, ← stringsMade, ← ih]
    cases step with
    | newString text => rfl
    | edit source f => cases source <;> exact (List.append_nil _).symm
    | _ => exact (List.append_nil _).symm

theorem length_builders_world (steps : List SourceStep) :
    (world steps).store.builders.length = (buildersMade steps).length := by
  induction steps using List.reverseRecOn with
  | nil => rfl
  | append_singleton steps step ih =>
    rw [world_concat, buildersMade, List.filterMap_append, ← buildersMade, List.length_append, ← ih]
    cases step with
    | newBuilder text => exact List.length_append
    | edit source f =>
      cases source with
      | string number => rfl
      | builder number => exact List.length_modify ..
    | _ => rfl

/-- What was made stays made. -/
theorem isSome_contentAfter_append {source : Source} (more : List SourceStep)
    (h : (contentAfter steps source).isSome = true) :
    (contentAfter (steps ++ more) source).isSome = true := by
  cases source with
  | string number =>
    simp only [contentAfter, stringsMade, List.filterMap_append, Option.isSome_iff_exists,
      List.getElem?_eq_some_iff, List.length_append] at h ⊢
    obtain ⟨_, hlt, -⟩ := h
    exact ⟨_, by omega, rfl⟩
  | builder number =>
    simp only [contentAfter, buildersMade, List.filterMap_append, Option.isSome_map,
      Option.isSome_iff_exists, List.getElem?_eq_some_iff, List.length_append] at h ⊢
    obtain ⟨_, hlt, -⟩ := h
    exact ⟨_, by omega, rfl⟩

/-- Registering is interning each source for itself. -/
theorem register_eq_internBy (r : SourceRegistry) (source : Source) :
    ((r.register source).1, (r.register source).2.sources) = internBy id r.sources source := by
  rw [SourceRegistry.register, SourceRegistry.indexOf?, List.idxOf?, internBy]
  simp only [id]
  cases r.sources.findIdx? (· == source) <;> rfl

theorem registered_concat (steps : List SourceStep) (step : SourceStep) :
    registered (steps ++ [step]) =
      match step.call? with
      | some call => Interning.next SourceRegistry.register .empty (registered steps) call
      | none => registered steps := by
  rw [registered, calls_concat]
  cases step.call? with
  | none => exact congrArg _ (List.append_nil _)
  | some call => exact run_concat _ _ _ _

/-- What is held after a step was held before, or is used by the step, or is made by it. -/
theorem mem_held_concat {step : SourceStep} {source : Source}
    (h : source ∈ (world (steps ++ [step])).held) :
    source ∈ (world steps).held ∨ source ∈ step.uses ∨
      (∃ text, step = .newString text ∧ source = .string (stringsMade steps).length) ∨
      ∃ text, step = .newBuilder text ∧ source = .builder (buildersMade steps).length := by
  rw [world_concat] at h
  rw [← strings_world, ← length_builders_world]
  cases step with
  | newString text =>
    obtain hheld | hnew := List.mem_append.1 h
    · exact .inl hheld
    · exact .inr (.inr (.inl ⟨text, rfl, List.mem_singleton.1 hnew⟩))
  | newBuilder text =>
    obtain hheld | hnew := List.mem_append.1 h
    · exact .inl hheld
    · exact .inr (.inr (.inr ⟨text, rfl, List.mem_singleton.1 hnew⟩))
  | hold other =>
    obtain hheld | hused := List.mem_append.1 h
    · exact .inl hheld
    · exact .inr (.inl hused)
  | release other => exact .inl (List.mem_of_mem_filter h)
  | _ => exact .inl h

/-- What the registry keeps after a step was kept before, or is used by the step. -/
theorem mem_sources_concat {step : SourceStep} {source : Source}
    (h : source ∈ (registered (steps ++ [step])).2.sources) :
    source ∈ (registered steps).2.sources ∨ source ∈ step.uses := by
  rw [registered_concat] at h
  cases step with
  | register other =>
    have hsources : ((registered steps).2.register other).2.sources =
        (internBy id (registered steps).2.sources other).2 :=
      congrArg Prod.snd (register_eq_internBy (registered steps).2 other)
    have hafter : source ∈ ((registered steps).2.register other).2.sources := h
    rw [hsources, snd_internBy] at hafter
    split at hafter
    · exact .inl hafter
    · exact List.mem_append.1 hafter
  | clear => cases h
  | _ => exact .inl h

/-- **Only sources that were made are there.** -/
theorem Possible.made_of_live (h : Possible address steps) {source : Source}
    (hlive : source ∈ live steps) : (contentAfter steps source).isSome = true := by
  induction steps using List.reverseRecOn generalizing source with
  | nil => cases hlive
  | append_singleton steps step ih =>
    have hbefore {source : Source} (hold : source ∈ live steps) :=
      isSome_contentAfter_append [step] (ih h.of_concat hold)
    have hused {source : Source} (huses : source ∈ step.uses) :=
      hbefore (h.uses_live steps step (List.prefix_refl _) source huses)
    obtain hheld | hkept := List.mem_append.1 hlive
    · obtain hold | huses | hstring | hbuilder := mem_held_concat hheld
      · exact hbefore (List.mem_append_left _ hold)
      · exact hused huses
      · obtain ⟨text, rfl, rfl⟩ := hstring
        simp [contentAfter, stringsMade]
      · obtain ⟨text, rfl, rfl⟩ := hbuilder
        simp [contentAfter, buildersMade]
    · obtain hold | huses := mem_sources_concat hkept
      · exact hbefore (List.mem_append_right _ hold)
      · exact hused huses

/-- Only builders that were made were edited. -/
theorem Possible.editsOf_eq_nil (h : Possible address steps) {source : Source}
    (hmade : contentAfter steps source = none) : editsOf source steps = [] := by
  induction steps using List.reverseRecOn with
  | nil => rfl
  | append_singleton steps step ih =>
    have hnone : contentAfter steps source = none := by
      by_contra hsome
      have hlater := isSome_contentAfter_append [step] (Option.isSome_iff_ne_none.2 hsome)
      rw [hmade] at hlater
      cases hlater
    rw [editsOf, List.filterMap_append, ← editsOf, ih h.of_concat hnone]
    cases step with
    | edit edited f =>
      by_cases hedited : edited = source
      · -- what is edited is there
        have hlive := h.uses_live steps _ (List.prefix_refl _) edited (List.mem_singleton.2 rfl)
        have hsome := h.of_concat.made_of_live hlive
        rw [hedited, hnone] at hsome
        cases hsome
      · simp [hedited]
    | _ => rfl

/-- **What the store has of a source is what was done to it.** -/
theorem Possible.text?_world (h : Possible address steps) (source : Source) :
    (world steps).store.text? source = contentAfter steps source := by
  cases source with
  | string number => rw [SourceStore.text?, strings_world, contentAfter]
  | builder number =>
    induction steps using List.reverseRecOn with
    | nil => rfl
    | append_singleton steps step ih =>
      have hnow := ih h.of_concat
      rw [SourceStore.text?, contentAfter] at hnow
      rw [world_concat, SourceStore.text?, contentAfter, buildersMade, editsOf,
        List.filterMap_append, List.filterMap_append, ← buildersMade, ← editsOf]
      cases step with
      | newBuilder text =>
        show ((world steps).store.builders ++ [text])[number]? =
          (buildersMade steps ++ [text])[number]?.map _
        rw [List.getElem?_append, List.getElem?_append, length_builders_world]
        split
        · simpa using hnow
        · -- the new builder was not edited before
          rename_i hnew
          have hnone : contentAfter steps (.builder number) = none := by
            rw [contentAfter, List.getElem?_eq_none (Nat.not_lt.1 hnew)]
            rfl
          rw [h.of_concat.editsOf_eq_nil hnone]
          exact Option.map_id_apply.symm
      | edit edited f =>
        cases edited with
        | string other => simpa [World.next, SourceStore.edit] using hnow
        | builder other =>
          show ((world steps).store.builders.modify other f)[number]? = _
          rw [List.getElem?_modify, hnow]
          by_cases hedited : other = number
          · simp [hedited, List.foldl_append, Function.comp_def]
          · simp [hedited]
      | _ => simpa [World.next, SourceStore.newString] using hnow

/-! ### Registered sources -/

/-- Where objects are kept by their addresses, those of strings and of builders are kept apart. -/
inductive AddressKey where
  | string (address : Nat)
  | builder (address : Nat)
deriving DecidableEq, Hashable

/-- The key that a source has in a hash map. -/
def keyOf (address : Source → Nat) : Source → AddressKey
  | .string number => .string (address (.string number))
  | .builder number => .builder (address (.builder number))

theorem keyOf_eq_iff {a b : Source} :
    keyOf address a = keyOf address b ↔ a.isBuilder = b.isBuilder ∧ address a = address b := by
  cases a <;> cases b <;> simp [keyOf, Source.isBuilder]

/-- Registered sources in a table that is looked up by hash of their addresses. -/
abbrev AddressTable := IndexTable AddressKey Source

/-- What was registered in a table since the last clearing, and the table. -/
def registeredByAddress (address : Source → Nat) (steps : List SourceStep) :
    List (Source × UInt32) × AddressTable :=
  run (IndexTable.register (keyOf address)) {} (calls steps)

/-- **Addresses tell registered sources apart**: a table of addresses hands out the indices of the
registry. -/
theorem Possible.alike (h : Possible address steps) :
    Alike (TableOf (keyOf address) id SourceRegistry.sources) UInt32.ofNat (registered steps)
      (registeredByAddress address steps) := by
  induction steps using List.reverseRecOn with
  | nil => exact ⟨rfl, IndexTable.indexes_empty, rfl⟩
  | append_singleton steps step ih =>
    have hpast := ih h.of_concat
    rw [registeredByAddress, calls_concat, registered_concat]
    cases step with
    | clear =>
      rw [show SourceStep.call? .clear = some .clear from rfl, Option.toList_some, run_concat]
      exact ⟨rfl, IndexTable.indexes_empty, rfl⟩
    | register source =>
      rw [show SourceStep.call? (.register source) = some (.register source) from rfl,
        Option.toList_some, run_concat]
      refine hpast.next ⟨IndexTable.indexes_empty, rfl⟩ (.register source) fun entry hentry => ?_
      obtain rfl := Call.register.inj hentry
      refine hpast.2.register SourceRegistry.register (register_eq_internBy _ source)
        fun old hold => ?_
      rw [Bool.eq_iff_iff, beq_iff_eq, beq_iff_eq, keyOf_eq_iff]
      refine ⟨fun hsame => ⟨congrArg _ hsame, congrArg _ hsame⟩, fun hsame => ?_⟩
      -- what the registry keeps is there, and so is what is registered
      have hkept : old ∈ live steps := by
        rw [live, hpast.2.entries_eq, List.map_id]
        exact List.mem_append_right _ hold
      have hlive := h.uses_live steps _ (List.prefix_refl _) source (List.mem_singleton.2 rfl)
      exact h.of_concat.apart steps (List.prefix_refl _) old hkept source hlive hsame.1 hsame.2
    | _ => exact (List.append_nil (calls steps)).symm ▸ hpast

/-- What a registry has after a run: the sources registered since the last clearing, each at one
index, and the indices that were handed out are theirs. -/
theorem registered_eq (steps : List SourceStep) :
    (registered steps).1.map Prod.fst = sinceClear (calls steps) ∧
      (registered steps).2.sources = (sinceClear (calls steps)).eraseDups ∧
      (∀ source index, (registered steps).2.indexOf? source = some index ↔
        (registered steps).2.get? index = some source) ∧
      ∀ p ∈ (registered steps).1, (registered steps).2.indexOf? p.1 = some p.2 := by
  obtain ⟨hlog, hsources, hindices⟩ := run_interned id id SourceRegistry.sources
    (rfl : SourceRegistry.empty.sources = []) register_eq_internBy (calls steps)
  rw [List.map_id] at hsources
  refine ⟨hlog, hsources, fun source index => ?_, hindices⟩
  have hpairwise :
      (registered steps).2.sources.Pairwise fun old new => (id old == id new) = false := by
    rw [show (registered steps).2.sources = _ from hsources]
    exact pairwise_firstsBy _
  refine (findIdx?_eq_some_iff hpairwise).trans ?_
  simp only [id, beq_iff_eq, exists_eq_right]
  rfl

/-- **A registry gives an index to each source that is registered, whatever the sources hold.**
After any run two registrations since the last clearing got the same index just when they are of the
same source, so a string and a builder never share one.  The indices count the sources in the order
in which they were registered first, and at the index of a source the registry has this source with
the text that all edits so far have made.  A table with a hash map from addresses, which may be given to
another object once their object is gone, has the same sources, and as long as they can be counted
in 32 bits it hands out the same indices. -/
theorem registered_by_identity (h : Possible address steps) :
    let log := (registered steps).1
    let r := (registered steps).2
    let tableLog := (registeredByAddress address steps).1
    let table := (registeredByAddress address steps).2
    log.map Prod.fst = sinceClear (calls steps) ∧
      (∀ p ∈ log, ∀ q ∈ log, p.2 = q.2 ↔ p.1 = q.1) ∧
      (∀ p ∈ log, ∀ q ∈ log, p.1.isBuilder ≠ q.1.isBuilder → p.2 ≠ q.2) ∧
      r.sources = (log.map Prod.fst).eraseDups ∧
      (∀ index, index < r.size ↔ ∃ p ∈ log, p.2 = index) ∧
      (∀ p ∈ log, r.get? p.2 = some p.1 ∧
        ∃ text, contentAfter steps p.1 = some text ∧ (world steps).store.text? p.1 = some text) ∧
      table.entries = r.sources ∧
      (r.size ≤ UInt32.size → tableLog.map (Prod.map id UInt32.toNat) = log) := by
  intro log r tableLog table
  obtain ⟨hlog, hsources, hindexOf, hindices⟩ := registered_eq steps
  have hget (p : Source × Nat) (hp : p ∈ log) : r.get? p.2 = some p.1 :=
    (hindexOf p.1 p.2).1 (hindices p hp)
  have hlt (p : Source × Nat) (hp : p ∈ log) : p.2 < r.size :=
    (List.getElem?_eq_some_iff.1 (hget p hp)).1
  have hsame (p : Source × Nat) (hp : p ∈ log) (q : Source × Nat) (hq : q ∈ log) :
      p.2 = q.2 ↔ p.1 = q.1 := by
    constructor
    · intro hindex
      exact Option.some.inj ((hget p hp).symm.trans (hindex ▸ hget q hq))
    · intro hsource
      exact Option.some.inj ((hindices p hp).symm.trans (hsource ▸ hindices q hq))
  refine ⟨hlog, hsame, fun p hp q hq hkind hindex => ?_, hlog.symm ▸ hsources, fun index => ?_,
    fun p hp => ⟨hget p hp, ?_⟩, ?_, fun hsize => ?_⟩
  · exact hkind (congrArg Source.isBuilder ((hsame p hp q hq).1 hindex))
  · constructor
    · intro hindex
      have hmem : r.sources[index] ∈ log.map Prod.fst := by
        rw [hlog, ← List.mem_eraseDups, ← hsources]
        exact List.getElem_mem hindex
      obtain ⟨p, hp, hsource⟩ := List.mem_map.1 hmem
      refine ⟨p, hp, Option.some.inj ((hindices p hp).symm.trans ((hindexOf p.1 index).2 ?_))⟩
      rw [hsource]
      exact List.getElem?_eq_getElem hindex
    · intro hp
      obtain ⟨p, hp, rfl⟩ := hp
      exact hlt p hp
  · -- what is registered is there, so it was made
    have hlive : p.1 ∈ live steps :=
      List.mem_append_right _ (List.mem_of_getElem? (hget p hp))
    obtain ⟨text, htext⟩ := Option.isSome_iff_exists.1 (h.made_of_live hlive)
    exact ⟨text, htext, (h.text?_world p.1).trans htext⟩
  · exact (h.alike.2.entries_eq.trans (List.map_id _)).symm
  · exact h.alike.map_toNat fun p hp => (hlt p hp).trans_le hsize

/-- A string is let go after a clearing and another one gets its address, which a builder has as
well: the new string and the builder are two sources, and the builder keeps its index when it is
edited. -/
theorem registered_by_identity_reused :
    let address : Source → Nat := fun _ => 16
    let steps : List SourceStep :=
      [.newString "a", .register (.string 0), .newBuilder "b", .clear, .release (.string 0),
        .newString "b", .register (.string 1), .register (.builder 0),
        .edit (.builder 0) (fun text => text ++ "!"), .register (.builder 0)]
    (registeredByAddress address steps).1.map (fun p => (p.1, p.2.toNat)) =
        [(.string 1, 0), (.builder 0, 1), (.builder 0, 1)] ∧
      (world steps).store.text? (.builder 0) = some "b!" := by
  intro address steps
  have h : Possible address steps := by decide
  obtain ⟨-, -, -, -, -, hheld, -, hindices⟩ := registered_by_identity h
  obtain ⟨-, text, htext, hstore⟩ := hheld (.builder 0, 1) (by decide)
  exact ⟨hindices (by decide), hstore.trans (htext.symm.trans rfl)⟩

end SourceRun

end StyledText
