import StyledText.Proofs.Registry.NameTable
import StyledText.Proofs.Registry.SourceObjects
import StyledText.Proofs.Stream.Frame
import StyledText.Proofs.Stream.Resolvable

/-!
# Indices that the stream handed out

Commands name resources and sources by indices, and the indices come from the stream: whoever
registers something is told one.  A producer that writes **only indices that it was told since the
last clearing** is never refused: each of them still leads to what was registered, through all that
is done between registering and replay.

What was registered is told from the operations of a run and their outcomes alone, as are the
commands that were written (`StyledText.written`).

* `registrations`, `sourceRegistrations` — what was registered since the last clearing, with the
  indices that were answered.
* `UsesOwnIndices` — all indices in the commands written are among them.
* `Stream.Serves`, `Stream.Serves.run` — a registry inside a stream, over one operation and over a
  run: the stream makes the calls to it that the operations ask for and no others.
* `Stream.get?_registrations`, `Stream.get?_sourceRegistrations` — where an index leads after a run.
* `Stream.replay_own_indices` — the replay of such a run.
-/

namespace StyledText

open Interning

variable {α ε σ : Type}

/-! ### What is registered -/

/-- What an operation asks of the registry of a kind of resource. -/
def Operation.callTo? (kind : ResourceKind) : Operation α → Option (Call (String × α))
  | .register other name value => if other = kind then some (.register (name, value)) else none
  | .clear => some .clear
  | _ => none

/-- What an operation asks of the registry of sources. -/
def Operation.sourceCall? : Operation α → Option (Call Source)
  | .registerSource origin | .changeSource origin => some (.register origin)
  | .clear => some .clear
  | _ => none

/-- The answers of a registry after one more call to it, by what the operation answered. -/
def answer : Option (Call ε) → Outcome α → List (ε × Nat) → List (ε × Nat)
  | some (.register entry), .index index, log => log ++ [(entry, index)]
  | some .clear, _, _ => []
  | _, _, log => log

/-- What was registered since the last clearing, with the indices that were answered. -/
def answered (call? : Operation α → Option (Call ε)) (steps : List (Operation α × Outcome α)) :
    List (ε × Nat) :=
  steps.foldl (fun log step => answer (call? step.1) step.2 log) []

/-- The resources of a kind that were registered since the last clearing: names and values, with the
indices that were answered. -/
def registrations (kind : ResourceKind) (steps : List (Operation α × Outcome α)) :
    List ((String × α) × Nat) :=
  answered (Operation.callTo? kind) steps

/-- The sources that were registered since the last clearing, also in order to change to them, with
the indices that were answered. -/
def sourceRegistrations (steps : List (Operation α × Outcome α)) : List (Source × Nat) :=
  answered Operation.sourceCall? steps

/-- The value that came first with a name. -/
def firstUnder (name : String) (registered : List ((String × α) × Nat)) : Option α :=
  (registered.find? fun p => p.1.1 == name).map fun p => p.1.2

/-- The indices that were answered since the last clearing for things of one sort. -/
def handedOut (steps : List (Operation α × Outcome α)) : Reference → List Nat
  | .resource kind => (registrations kind steps).map Prod.snd
  | .source => (sourceRegistrations steps).map Prod.snd

/-- Every command written since the last clearing that names something carries an index that was
answered for a thing of its sort since then. -/
def UsesOwnIndices (steps : List (Operation α × Outcome α)) : Prop :=
  ∀ named ∈ (written steps).filterMap Command.named?,
    named.2 ∈ (handedOut steps named.1).map UInt32.ofNat

instance (steps : List (Operation α × Outcome α)) : Decidable (UsesOwnIndices steps) :=
  inferInstanceAs (Decidable (∀ named ∈ (written steps).filterMap Command.named?, _))

/-! ### What is replayed -/

/-- The resource that an event brings, with its kind. -/
def Event.resource? : Event α → Option (ResourceKind × α)
  | .icon _ value => some (.icon, value)
  | .pushStyle value => some (.style, value)
  | .pushFont value => some (.font, value)
  | .pushGlyphShader value => some (.glyphShader, value)
  | _ => none

/-- Only an index can lead nowhere. -/
theorem Command.named?_of_refusal? {c : Command} {reference : Reference} {index : UInt32}
    (h : c.refusal? = some (.unknownResource reference index)) :
    c.named? = some (reference, index) := by
  cases c with
  | text run => cases h
  | _ =>
    simp only [Command.refusal?, Option.map_eq_some_iff] at h
    obtain ⟨⟨r, i⟩, hnamed, heq⟩ := h
    cases heq
    exact hnamed

namespace Stream

variable {s : Stream α} {store : SourceStore} {before : List Command} {c : Command}

/-- A resource is brought by a command that names it. -/
theorem Tells.resource {event : Event α} {kind : ResourceKind} {value : α}
    (h : s.Tells store before c event) (hvalue : event.resource? = some (kind, value)) :
    ∃ index, c.named? = some (.resource kind, index) ∧
      (s.resources.of kind).get? index.toNat = some value := by
  cases h with
  | icon registered | pushStyle registered | pushFont registered | pushGlyphShader registered =>
    cases hvalue
    exact ⟨_, rfl, registered⟩
  | _ => cases hvalue

/-- A source is changed to by a command that names it. -/
theorem Tells.source {source : Source} (h : s.Tells store before c (.sourceChanged source)) :
    ∃ index, c.named? = some (.source, index) ∧ s.sources.get? index.toNat = some source := by
  cases h with
  | changeSource named registered => exact ⟨_, named, registered⟩

/-! ### Registries inside a stream -/

/-- A part of the stream is a registry: an operation makes the call to it that it asks for, answers
what the registry answers, and does nothing else to it. -/
def Serves (call? : Operation α → Option (Call ε)) (register : σ → ε → Nat × σ) (empty : σ)
    (view : Stream α → σ) : Prop :=
  ∀ (s : Stream α) (operation : Operation α) (log : List (ε × Nat)),
    (answer (call? operation) (s.perform operation).1 log, view (s.perform operation).2) =
      match call? operation with
      | none => (log, view s)
      | some call => next register empty (log, view s) call

/-- **A run does to a registry what its operations ask for, in order.** -/
theorem Serves.run {call? : Operation α → Option (Call ε)} {register : σ → ε → Nat × σ} {empty : σ}
    {view : Stream α → σ} (h : Serves call? register empty view) (s : Stream α)
    (operations : List (Operation α)) (log : List (ε × Nat)) :
    ((operations.zip (s.run operations).1).foldl
        (fun log step => answer (call? step.1) step.2 log) log, view (s.run operations).2) =
      (operations.filterMap call?).foldl (next register empty) (log, view s) := by
  induction operations generalizing s log with
  | nil => rfl
  | cons operation operations ih =>
    refine (ih (s.perform operation).2
      (answer (call? operation) (s.perform operation).1 log)).trans ?_
    rw [h s operation log]
    cases hcall : call? operation with
    | none => rw [List.filterMap_cons_none hcall]
    | some call => rw [List.filterMap_cons_some hcall, List.foldl_cons]

theorem serves_resources (kind : ResourceKind) :
    Serves (Operation.callTo? kind) (fun r entry => r.register entry.1 entry.2) .empty
      fun s : Stream α => s.resources.of kind := by
  intro s operation log
  have hframe (h : operation.onlyRecords = true) :
      (s.perform operation).2.resources.of kind = s.resources.of kind := by
    rw [s.perform_frame h]
  cases operation with
  | clear => cases kind <;> rfl
  | register other name value =>
    rw [Operation.callTo?]
    by_cases hkind : other = kind
    · subst hkind
      rw [if_pos rfl]
      exact congrArg (Prod.mk _) (Resources.of_set_self ..)
    · rw [if_neg hkind]
      exact congrArg (Prod.mk log) (Resources.of_set_of_ne _ _ (Ne.symm hkind))
  | changeSource | registerSource | setSettings | setParserOptions | setSourceText | setMetrics =>
    rfl
  | _ => exact congrArg (Prod.mk log) (hframe rfl)

theorem serves_sources :
    Serves Operation.sourceCall? SourceRegistry.register .empty fun s : Stream α => s.sources := by
  intro s operation log
  have hframe (h : operation.onlyRecords = true) : (s.perform operation).2.sources = s.sources := by
    rw [s.perform_frame h]
  cases operation with
  | changeSource | registerSource | register | clear | setSettings | setParserOptions
  | setSourceText | setMetrics => rfl
  | _ => exact congrArg (Prod.mk log) (hframe rfl)

/-- What a run leaves in a registry are the first entries of each key, and every index that was
answered is that of its key. -/
theorem Serves.interned {κ : Type} [BEq κ] [EquivBEq κ] {call? : Operation α → Option (Call ε)}
    {register : σ → ε → Nat × σ} {empty : σ} {view : Stream α → σ}
    (h : Serves call? register empty view) {key : ε → κ} {entries : σ → List ε}
    (hempty : entries empty = [])
    (hregister : ∀ s entry, ((register s entry).1, entries (register s entry).2) =
      internBy key (entries s) entry)
    {s : Stream α} (hs : view s = empty) (operations : List (Operation α)) :
    let log := answered call? (operations.zip (s.run operations).1)
    let after := entries (view (s.run operations).2)
    after = firstsBy key (log.map Prod.fst) ∧
      ∀ p ∈ log, after.findIdx? (fun old => key old == key p.1) = some p.2 := by
  intro log after
  have hrun : (log, view (s.run operations).2) =
      Interning.run register empty (operations.filterMap call?) := by
    have hcalls := h.run s operations []
    rw [hs] at hcalls
    exact hcalls
  obtain ⟨hlog, hentries, hindices⟩ :=
    run_interned key id entries hempty hregister (operations.filterMap call?)
  rw [← hrun] at hlog hentries hindices
  rw [List.map_id, ← hlog] at hentries
  exact ⟨hentries, hindices⟩

/-! ### Where an index leads -/

/-- **An index that was answered for a name leads to the value that came first with the name.** -/
theorem get?_registrations (config : StreamConfig) (operations : List (Operation α))
    (kind : ResourceKind) :
    let registered := registrations kind (operations.zip ((ofConfig config).run operations).1)
    ∀ p ∈ registered, (((ofConfig config).run operations).2.resources.of kind).get? p.2 =
      firstUnder p.1.1 registered := by
  intro registered p hp
  obtain ⟨hentries, hindices⟩ := (serves_resources kind).interned
    (rfl : (Registry.empty : Registry α).entries = []) Registry.register_eq_internBy
    (s := ofConfig config) (by cases kind <;> rfl) operations
  have hindex : (((ofConfig config).run operations).2.resources.of kind).indexOf? p.1.1 =
      some p.2 := hindices p hp
  calc (((ofConfig config).run operations).2.resources.of kind).get? p.2
      = (((ofConfig config).run operations).2.resources.of kind).find? p.1.1 := by
        rw [Registry.find?, hindex, Option.bind_some]
    _ = ((registered.map Prod.fst).find? fun entry => entry.1 == p.1.1).map Prod.snd := by
        rw [Registry.find?_eq, hentries, find?_firstsBy]
        rfl
    _ = firstUnder p.1.1 registered := by
        rw [List.find?_map, Option.map_map]
        rfl

/-- **An index that was answered for a source leads to this source.** -/
theorem get?_sourceRegistrations (config : StreamConfig) (operations : List (Operation α)) :
    ∀ p ∈ sourceRegistrations (operations.zip ((ofConfig config : Stream α).run operations).1),
      ((ofConfig config).run operations).2.sources.get? p.2 = some p.1 := by
  intro p hp
  obtain ⟨_, hindices⟩ := serves_sources.interned (rfl : SourceRegistry.empty.sources = [])
    SourceRun.register_eq_internBy (s := (ofConfig config : Stream α)) rfl operations
  obtain ⟨hlt, hsource, _⟩ := List.findIdx?_eq_some_iff_getElem.1 (hindices p hp)
  rw [SourceRegistry.get?, List.getElem?_eq_getElem hlt]
  exact congrArg some (eq_of_beq hsource)

/-- An index that was answered is that of something registered. -/
theorem lt_registered (config : StreamConfig) (operations : List (Operation α))
    {reference : Reference} {n : Nat}
    (hn : n ∈ handedOut (operations.zip ((ofConfig config).run operations).1) reference) :
    n < ((ofConfig config).run operations).2.registered reference := by
  cases reference with
  | resource kind =>
    obtain ⟨p, hp, rfl⟩ := List.mem_map.1 hn
    have hfound := get?_registrations config operations kind p hp
    apply Nat.lt_of_not_le
    intro hle
    rw [Registry.get?_eq_none_iff.2 hle, firstUnder, eq_comm, Option.map_eq_none_iff,
      List.find?_eq_none] at hfound
    exact hfound p hp (beq_self_eq_true p.1.1)
  | source =>
    obtain ⟨p, hp, rfl⟩ := List.mem_map.1 hn
    have hfound := get?_sourceRegistrations config operations p hp
    exact (List.getElem?_eq_some_iff.1 hfound).1

/-- **A producer that writes only indices it was told is never refused.**  Over any run in which
lines are ended with the stream's own marks, and as long as the things of each sort can be counted
in 32 bits, replay meets no index that leads nowhere.  Every resource that it brings is the one that
came first with the name for which the index in the command was answered, and every source that it
changes to is the one for which the index was answered.  Nothing else is asked of the run: it does
not matter what else was registered, written, read or sought, how often a name was registered, nor
what the sources hold. -/
theorem replay_own_indices (config : StreamConfig) (operations : List (Operation α))
    (huse : (ofConfig config).UsesOwnMarks [] operations)
    (hown : UsesOwnIndices (operations.zip ((ofConfig config).run operations).1))
    (hsize : ∀ reference, ((ofConfig config).run operations).2.registered reference ≤ UInt32.size)
    (store : SourceStore) :
    let steps := operations.zip ((ofConfig config).run operations).1
    let replay := ((ofConfig config).run operations).2.replay store
    (∀ reference index, replay.fault ≠ some (.unknownResource reference index)) ∧
      (∀ (i : Nat) event kind value, replay.events[i]? = some event →
        event.resource? = some (kind, value) →
        ∃ c index, (written steps)[i]? = some c ∧ c.named? = some (.resource kind, index) ∧
          ∀ p ∈ registrations kind steps, UInt32.ofNat p.2 = index →
            firstUnder p.1.1 (registrations kind steps) = some value) ∧
      ∀ (i : Nat) source, replay.events[i]? = some (.sourceChanged source) →
        ∃ c index, (written steps)[i]? = some c ∧ c.named? = some (.source, index) ∧
          ∀ p ∈ sourceRegistrations steps, UInt32.ofNat p.2 = index → p.1 = source := by
  intro steps replay
  have hreached : Reached ((ofConfig config).run operations).2 (written steps) :=
    ⟨config, operations, huse, rfl, rfl⟩
  have hdelivers := hreached.represents.delivers store
  -- the word in a command is the index that was answered
  have htoNat {reference : Reference} {n : Nat} (hn : n ∈ handedOut steps reference) :
      (UInt32.ofNat n).toNat = n :=
    UInt32.toNat_ofNat_of_lt' ((lt_registered config operations hn).trans_le (hsize reference))
  refine ⟨?_, ?_, ?_⟩
  · intro reference index hfault
    obtain ⟨hrefusal, -, hlast⟩ := hdelivers.refused
    rw [show replay.fault = _ from hrefusal] at hfault
    obtain ⟨c, hc, hunknown⟩ := Option.bind_eq_some_iff.1 hfault
    have hnamed := Command.named?_of_refusal? hunknown
    have hmem : (reference, index) ∈ (written steps).filterMap Command.named? :=
      List.mem_filterMap.2 ⟨c, List.mem_of_getElem? hc, hnamed⟩
    obtain ⟨n, hn, rfl⟩ := List.mem_map.1 (hown _ hmem)
    apply hlast c hc
    rw [resolvable_iff_of_named hnamed, htoNat hn]
    exact lt_registered config operations hn
  · intro i event kind value hevent hvalue
    obtain ⟨c, hc, -, htells⟩ := hdelivers.tells hevent
    obtain ⟨index, hnamed, hget⟩ := htells.resource hvalue
    refine ⟨c, index, hc, hnamed, ?_⟩
    rintro p hp rfl
    have hmem : p.2 ∈ handedOut steps (.resource kind) := List.mem_map_of_mem hp
    rw [htoNat hmem] at hget
    exact (get?_registrations config operations kind p hp).symm.trans hget
  · intro i source hevent
    obtain ⟨c, hc, -, htells⟩ := hdelivers.tells hevent
    obtain ⟨index, hnamed, hget⟩ := htells.source
    refine ⟨c, index, hc, hnamed, ?_⟩
    rintro p hp rfl
    have hmem : p.2 ∈ handedOut steps .source := List.mem_map_of_mem hp
    rw [htoNat hmem] at hget
    exact Option.some.inj ((get?_sourceRegistrations config operations p hp).symm.trans hget)

/-- A style is registered again under its name, with another value, and a builder is registered
before a string is changed to.  The run before the clearing gave the same indices to others. -/
theorem replay_own_indices_again :
    let operations : List (Operation Nat) :=
      [.register .style "b" 1, .changeSource (.string 7), .clear, .register .style "a" 2,
        .register .style "b" 3, .registerSource (.builder 0), .beginLine {}, .write (.pushStyle 0),
        .register .style "a" 4, .changeSource (.string 0), .seek 1,
        .write (.changeSourceStringBuilder 0), .endLine ⟨⟨0, 0⟩, {}, 1⟩]
    let steps := operations.zip ((ofConfig {}).run operations).1
    let replay := ((ofConfig {}).run operations).2.replay {}
    (ofConfig {}).UsesOwnMarks [] operations ∧ UsesOwnIndices steps ∧
      registrations .style steps = [(("a", 2), 0), (("b", 3), 1), (("a", 4), 0)] ∧
      replay.fault = none ∧ replay.events.length = 4 ∧
      replay.events[1]? = some (.pushStyle 2) ∧
      replay.events[3]? = some (.sourceChanged (.builder 0)) := by
  intro operations steps replay
  have huse : (ofConfig {}).UsesOwnMarks [] operations := by decide
  have hown : UsesOwnIndices steps := by decide
  have hsize (reference : Reference) :
      ((ofConfig {}).run operations).2.registered reference ≤ UInt32.size := by
    cases reference with
    | source => decide
    | resource kind => cases kind <;> decide
  obtain ⟨-, hvalue, hsource⟩ := replay_own_indices {} operations huse hown hsize {}
  -- the events are there, and they carry values and sources of this run or of the one before
  have hstyle : ∃ value ∈ [1, 2, 3, 4], replay.events[1]? = some (.pushStyle value) := by
    decide +kernel
  have hchange : ∃ source ∈ [Source.string 7, .builder 0, .string 0],
      replay.events[3]? = some (.sourceChanged source) := by
    decide +kernel
  obtain ⟨value, -, hstyle⟩ := hstyle
  obtain ⟨source, -, hchange⟩ := hchange
  have hfirst : value = 2 := by
    obtain ⟨c, index, hc, hnamed, hfirst⟩ := hvalue 1 _ .style value hstyle rfl
    cases hc
    cases hnamed
    exact (Option.some.inj (hfirst (("a", 4), 0) (by decide) rfl)).symm
  have hbuilder : source = .builder 0 := by
    obtain ⟨c, index, hc, hnamed, hsame⟩ := hsource 3 source hchange
    cases hc
    cases hnamed
    exact (hsame (.builder 0, 0) (by decide) rfl).symm
  rw [hfirst] at hstyle
  rw [hbuilder] at hchange
  exact ⟨huse, hown, by decide, by decide +kernel, by decide +kernel, hstyle, hchange⟩

end Stream

end StyledText
