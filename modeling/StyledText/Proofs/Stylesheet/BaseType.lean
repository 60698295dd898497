import StyledText.Proofs.Stylesheet.Grammar

/-!
# How far the base type reaches

Of the options, the one tells which diagnostics are grave and the other is the type of targets that
name none.  Two compilations of a tree with different base types, and warnings taken alike, **come
to the same error, or to documents that differ in the types of those targets only**.

All that is read without options is the same on both sides.  The rest is followed from the target up
to the document: a relation between what is read on the one side and on the other, through the node
that it is read from.

* `ReadAlike` — two readings that come to the same fault, or to related values.
* `RowsAlike` — two rows related member by member, through a row of nodes.
* `StoryboardTarget.DifferInBase`, `Document.DifferInBase` — what may differ.
* `compile_readAlike` — nothing else does.
-/

namespace StyledText.Stylesheet

open Syntax

/-! ### Two readings -/

/-- Two readings that come to the same fault, or to values in a relation. -/
inductive ReadAlike {ε α : Type} (R : α → α → Prop) : Except ε α → Except ε α → Prop
  | fault (e : ε) : ReadAlike R (.error e) (.error e)
  | value {a b : α} (h : R a b) : ReadAlike R (.ok a) (.ok b)

/-- Two rows with a member each for every node of a third row, in its order, and the node between
the two. -/
inductive RowsAlike {ν α : Type} (R : ν → α → α → Prop) : List ν → List α → List α → Prop
  | nil : RowsAlike R [] [] []
  | cons {n : ν} {a b : α} {ns : List ν} {as bs : List α} (head : R n a b)
      (tail : RowsAlike R ns as bs) : RowsAlike R (n :: ns) (a :: as) (b :: bs)

section Readings

variable {ε ε' ν α β : Type} {R : α → α → Prop} {S : β → β → Prop} {x y : Except ε α}

/-- What does not change comes to the same. -/
theorem ReadAlike.refl (hrefl : ∀ a, R a a) (x : Except ε α) : ReadAlike R x x := by
  cases x with
  | error e => exact .fault e
  | ok a => exact .value (hrefl a)

theorem ReadAlike.bind {f g : α → Except ε β} (h : ReadAlike R x y)
    (hfg : ∀ a b, R a b → ReadAlike S (f a) (g b)) : ReadAlike S (x >>= f) (y >>= g) := by
  cases h with
  | fault e => exact .fault e
  | value hab => exact hfg _ _ hab

theorem ReadAlike.map {f g : α → β} (h : ReadAlike R x y) (hfg : ∀ a b, R a b → S (f a) (g b)) :
    ReadAlike S (x.map f) (y.map g) := by
  cases h with
  | fault e => exact .fault e
  | value hab => exact .value (hfg _ _ hab)

theorem ReadAlike.mapError (f : ε → ε') (h : ReadAlike R x y) :
    ReadAlike R (x.mapError f) (y.mapError f) := by
  cases h with
  | fault e => exact .fault (f e)
  | value hab => exact .value hab

theorem ReadAlike.of_ok {a b : α} (h : ReadAlike R (.ok a : Except ε α) (.ok b)) : R a b := by
  cases h with
  | value hab => exact hab

/-- A row is read alike when each of its members is: the first fault is in the same place. -/
theorem ReadAlike.mapM {R : ν → α → α → Prop} {f g : ν → Except ε α} (ns : List ν)
    (h : ∀ n ∈ ns, ReadAlike (R n) (f n) (g n)) :
    ReadAlike (RowsAlike R ns) (ns.mapM f) (ns.mapM g) := by
  induction ns with
  | nil => exact .value .nil
  | cons n ns ih =>
    rw [List.mapM_cons, List.mapM_cons]
    have hhead := h n (.head _)
    have htail := ih fun m hm => h m (.tail _ hm)
    refine hhead.bind fun a b hab => htail.bind fun as bs hrow => ?_
    exact .value (.cons hab hrow)

/-- For each member of the one row there are a node and a member of the other. -/
theorem RowsAlike.exists_of_mem {R : ν → α → α → Prop} {ns : List ν} {as bs : List α}
    (h : RowsAlike R ns as bs) {a : α} (ha : a ∈ as) : ∃ n ∈ ns, ∃ b, R n a b := by
  induction h with
  | nil => cases ha
  | @cons n a' b ns as bs hhead _ ih =>
    rcases List.mem_cons.1 ha with rfl | ha
    · exact ⟨n, .head _, b, hhead⟩
    · obtain ⟨m, hm, b', hb'⟩ := ih ha
      exact ⟨m, .tail _ hm, b', hb'⟩

end Readings

/-! ### What may differ -/

/-- The types of a target are those that its node names, in order, or the base type alone when it
names none. -/
structure StoryboardTarget.HasTypesOf (base : String) (n : Node Token) (t : StoryboardTarget) :
    Prop where
  named : n.hasToken .typeName = true → t.filter = n.textsOf .typeName
  unnamed : n.hasToken .typeName = false → t.filter = [base]

/-- Two targets from one node that are the same but for the base type. -/
structure StoryboardTarget.DifferInBase (base₁ base₂ : String) (n : Node Token)
    (t₁ t₂ : StoryboardTarget) : Prop where
  selector : t₁.selector = t₂.selector
  animations : t₁.animations = t₂.animations
  types₁ : t₁.HasTypesOf base₁ n
  types₂ : t₂.HasTypesOf base₂ n

/-- Two storyboards from one node that are the same but for the base type in their targets, which
come from the nodes in it. -/
structure Storyboard.DifferInBase (base₁ base₂ : String) (n : Node Token) (s₁ s₂ : Storyboard) :
    Prop where
  name : s₁.name = s₂.name
  loopBehavior : s₁.loopBehavior = s₂.loopBehavior
  targets : RowsAlike (StoryboardTarget.DifferInBase base₁ base₂) n.nodes s₁.targets s₂.targets

/-- Two documents from one root that are the same but for the base type in the storyboards, which
come from the storyboard nodes in it. -/
structure Document.DifferInBase (base₁ base₂ : String) (root : Node Token) (d₁ d₂ : Document) :
    Prop where
  ruleSets : d₁.ruleSets = d₂.ruleSets
  storyboards : RowsAlike (Storyboard.DifferInBase base₁ base₂)
    (root.nodes.filter fun n => n.kind == .storyboard) d₁.storyboards d₂.storyboards

/-- Two items at the top, from one node. -/
inductive DocumentItem.DifferInBase (base₁ base₂ : String) (n : Node Token) :
    DocumentItem → DocumentItem → Prop
  | ruleSet (hkind : n.kind = .ruleSet) (s : RuleSet) :
    DifferInBase base₁ base₂ n (.ruleSet s) (.ruleSet s)
  | storyboard (hkind : n.kind = .storyboard) {s₁ s₂ : Storyboard}
      (h : s₁.DifferInBase base₁ base₂ n s₂) :
    DifferInBase base₁ base₂ n (.storyboard s₁) (.storyboard s₂)

/-! ### From the target up -/

variable {n : Node Token} (options options₁ options₂ : CompilerOptions)

theorem StoryboardTarget.hasTypesOf_filterOf (n : Node Token) (selector : Option Selector)
    (animations : List Animation) :
    ({ selector, filter := filterOf options n, animations } : StoryboardTarget).HasTypesOf
      options.baseElementType n := by
  have hnames : n.hasToken .typeName = !(n.textsOf .typeName).isEmpty := by
    rw [Node.hasToken, Node.token?, Node.textsOf, List.isEmpty_map]
    cases n.tokensOf .typeName <;> rfl
  constructor
  · intro hnamed
    rw [hnamed, eq_comm, Bool.not_eq_true'] at hnames
    show filterOf options n = _
    rw [filterOf, hnames, if_neg Bool.false_ne_true]
  · intro hunnamed
    rw [hunnamed, eq_comm, Bool.not_eq_false'] at hnames
    show filterOf options n = _
    rw [filterOf, if_pos hnames]

/-- A target has a type, whether its node names one or not. -/
theorem StoryboardTarget.HasTypesOf.filter_ne_nil {base : String} {t : StoryboardTarget}
    (h : t.HasTypesOf base n) : t.filter ≠ [] := by
  cases hnames : n.hasToken .typeName with
  | true =>
    obtain ⟨text, htext⟩ := hasToken_iff.1 hnames
    rw [h.named hnames]
    intro hnil
    rw [Node.text?, hnil] at htext
    cases htext
  | false =>
    rw [h.unnamed hnames]
    exact List.cons_ne_nil base []

theorem StoryboardTarget.ofNode_readAlike (n : Node Token) :
    ReadAlike
      (StoryboardTarget.DifferInBase options₁.baseElementType options₂.baseElementType n)
      (StoryboardTarget.ofNode options₁ n) (StoryboardTarget.ofNode options₂ n) := by
  -- the items in a target are read without options
  refine (ReadAlike.refl (R := (· = ·)) (fun _ => rfl) _).bind fun items _ heq => ?_
  subst heq
  exact .value {
    selector := rfl
    animations := rfl
    types₁ := hasTypesOf_filterOf options₁ n _ _
    types₂ := hasTypesOf_filterOf options₂ n _ _ }

theorem Storyboard.targetOf_readAlike (parent : NodeKind) (n : Node Token) :
    ReadAlike
      (StoryboardTarget.DifferInBase options₁.baseElementType options₂.baseElementType n)
      (Storyboard.targetOf options₁ parent n) (Storyboard.targetOf options₂ parent n) := by
  rw [targetOf, targetOf]
  split_ifs
  · exact StoryboardTarget.ofNode_readAlike options₁ options₂ n
  · exact .fault _

theorem Storyboard.ofNode_readAlike (n : Node Token) :
    ReadAlike (Storyboard.DifferInBase options₁.baseElementType options₂.baseElementType n)
      (Storyboard.ofNode options₁ n) (Storyboard.ofNode options₂ n) := by
  refine (ReadAlike.refl (R := (· = ·)) (fun _ => rfl) _).bind fun name _ hname => ?_
  refine (ReadAlike.refl (R := (· = ·)) (fun _ => rfl) _).bind fun loopBehavior _ hloop => ?_
  have htargets := ReadAlike.mapM n.nodes fun m _ =>
    Storyboard.targetOf_readAlike options₁ options₂ n.kind m
  refine htargets.bind fun targets₁ targets₂ hrow => ?_
  exact .value { name := hname, loopBehavior := hloop, targets := hrow }

theorem DocumentItem.ofNode_readAlike (parent : NodeKind) (n : Node Token) :
    ReadAlike (DocumentItem.DifferInBase options₁.baseElementType options₂.baseElementType n)
      (DocumentItem.ofNode options₁ parent n) (DocumentItem.ofNode options₂ parent n) := by
  rw [ofNode, ofNode]
  cases hkind : n.kind
  case ruleSet =>
    have hsame := ReadAlike.refl (R := (· = ·)) (fun _ => rfl) (RuleSet.ofNode n)
    refine hsame.map fun s _ heq => ?_
    subst heq
    exact .ruleSet hkind s
  case storyboard =>
    exact (Storyboard.ofNode_readAlike options₁ options₂ n).map fun s₁ s₂ h => .storyboard hkind h
  all_goals exact .fault _

/-- Items that differ in the base type only are sorted to documents that do. -/
theorem Document.differInBase_ofItems {base₁ base₂ : String} {root : Node Token}
    {items₁ items₂ : List DocumentItem}
    (h : RowsAlike (DocumentItem.DifferInBase base₁ base₂) root.nodes items₁ items₂) :
    (Document.ofItems items₁).DifferInBase base₁ base₂ root (Document.ofItems items₂) := by
  have hrows : items₁.filterMap DocumentItem.ruleSet? = items₂.filterMap DocumentItem.ruleSet? ∧
      RowsAlike (Storyboard.DifferInBase base₁ base₂)
        (root.nodes.filter fun n => n.kind == .storyboard)
        (items₁.filterMap DocumentItem.storyboard?)
        (items₂.filterMap DocumentItem.storyboard?) := by
    generalize root.nodes = nodes at h
    induction h with
    | nil => exact ⟨rfl, .nil⟩
    | @cons n i₁ i₂ nodes items₁ items₂ hitem _ ih =>
      obtain ⟨hruleSets, hstoryboards⟩ := ih
      cases hitem with
      | ruleSet hkind s =>
        refine ⟨congrArg (s :: ·) hruleSets, ?_⟩
        rw [List.filter_cons, if_neg (by rw [hkind]; decide)]
        exact hstoryboards
      | storyboard hkind hs =>
        refine ⟨hruleSets, ?_⟩
        rw [List.filter_cons, if_pos (by rw [hkind]; decide)]
        exact .cons hs hstoryboards
  exact ⟨hrows.1, hrows.2⟩

theorem Document.ofNode_readAlike (root : Node Token) :
    ReadAlike (Document.DifferInBase options₁.baseElementType options₂.baseElementType root)
      (Document.ofNode options₁ root) (Document.ofNode options₂ root) := by
  have hitems := ReadAlike.mapM root.nodes fun n _ =>
    DocumentItem.ofNode_readAlike options₁ options₂ root.kind n
  exact hitems.map fun _ _ => Document.differInBase_ofItems

/-! ### Whole trees -/

variable {options₁ options₂} in
/-- Which diagnostics are rejected has nothing to do with the base type. -/
theorem CompilerOptions.rejects_eq_of_warnings
    (hwarnings : options₁.warningsAsErrors = options₂.warningsAsErrors) :
    options₁.rejects = options₂.rejects := by
  funext d
  rw [rejects, rejects, hwarnings]

/-- **The base type reaches the targets that name no type, and nothing else.**  With two options
that take warnings alike a tree comes to the same error, or to two documents with the same rule sets
and the same storyboards but for the types of targets: a target whose node names types has those
types in both, any other has the base type of either.  No target is without a type. -/
theorem compile_readAlike (options₁ options₂ : CompilerOptions)
    (hwarnings : options₁.warningsAsErrors = options₂.warningsAsErrors) (tree : Tree) :
    ReadAlike
        (Document.DifferInBase options₁.baseElementType options₂.baseElementType tree.root)
        (compile options₁ tree) (compile options₂ tree) ∧
      ∀ d, compile options₁ tree = .ok d → ∀ s ∈ d.storyboards, ∀ t ∈ s.targets,
        t.filter ≠ [] := by
  constructor
  · rw [compile, compile, CompilerOptions.rejects_eq_of_warnings hwarnings]
    cases tree.diagnostics.filter options₂.rejects with
    | nil => exact (Document.ofNode_readAlike options₁ options₂ tree.root).mapError _
    | cons d rest => exact .fault _
  · intro d hd s hs t ht
    have hsame := Document.ofNode_readAlike options₁ options₁ tree.root
    rw [(compile_eq_ok_iff.1 hd).2] at hsame
    obtain ⟨n, -, s', hs'⟩ := hsame.of_ok.storyboards.exists_of_mem hs
    obtain ⟨m, -, t', ht'⟩ := hs'.targets.exists_of_mem ht
    exact ht'.types₁.filter_ne_nil

/-- A rule set and a storyboard of two targets, the second of which names no type. -/
theorem compile_readAlike_unnamed :
    let token (kind : TokenKind) (text : String) : Element Token (Node Token) :=
      .token { kind, text := .whole ⟨0, text⟩ }
    let named : Node Token :=
      { kind := .storyboardTarget, children := [token .typeName "Border", token .typeName "Panel"] }
    let unnamed : Node Token := { kind := .storyboardTarget }
    let storyboard : Node Token :=
      { kind := .storyboard,
        children := [token .identifier "fade", .node named, .node unnamed] }
    let tree : Tree :=
      { root := { kind := .document, children := [
          .node { kind := .ruleSet, children := [.node { kind := .transition }] },
          .node storyboard] }
        source := ⟨0, ""⟩ }
    let visual : CompilerOptions := { baseElementType := "Visual" }
    ({} : CompilerOptions).warningsAsErrors = visual.warningsAsErrors ∧
      ∃ d₁ d₂, compile {} tree = .ok d₁ ∧ compile visual tree = .ok d₂ ∧
        Document.DifferInBase "UIElement" "Visual" tree.root d₁ d₂ ∧
        d₁.ruleSets.length = 1 ∧
        d₁.storyboards.map (fun s => s.targets.map StoryboardTarget.filter) =
          [[["Border", "Panel"], ["UIElement"]]] ∧
        d₂.storyboards.map (fun s => s.targets.map StoryboardTarget.filter) =
          [[["Border", "Panel"], ["Visual"]]] := by
  intro token named unnamed storyboard tree visual
  exact ⟨rfl, _, _, rfl, rfl, (compile_readAlike {} visual rfl tree).1.of_ok, rfl, rfl, rfl⟩

end StyledText.Stylesheet
