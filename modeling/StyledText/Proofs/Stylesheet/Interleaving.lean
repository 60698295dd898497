import StyledText.Proofs.Stylesheet.Entries
import StyledText.Proofs.Stylesheet.Rejected

/-!
# Interleaved children

Two trees that differ only in **how the groups of children are interleaved**, at any depth, have the
same children in each group, in the same order.  What is looked up in a node is looked up in one
group, and what is read in a row is sorted by group afterwards; so both trees are compiled to the
same document, or neither is compiled.  The fault that is reported can be another, as it is the
first.

* `Node.Interleaved`, `Tree.Interleaved` — trees that differ so.
* `GroupsMatch.textsOf_eq`, `GroupsMatch.node?` — what is looked up in such nodes.
* `exists_items_of_groupsMatch` — the items that are read from such nodes, sort by sort.
* `compile_of_interleaved` — both are compiled to the same document.
-/

namespace StyledText

open Syntax Stylesheet

/-! ### Trees -/

/-- The group of a child, in a node that is read as one of the kind `place`. -/
def Stylesheet.ChildGroup.of (place : NodeKind) : Element Token (Node Token) → ChildGroup
  | .token t => .ofToken place t.kind
  | .node m => .ofNode place m.kind

namespace Syntax

/-- The children of a group. -/
def Node.childrenIn (n : Node Token) (place : NodeKind) (g : ChildGroup) :
    List (Element Token (Node Token)) :=
  n.children.filter fun c => ChildGroup.of place c = g

/-- Two tokens of one kind and text, wherever they stand, or two nodes in a relation. -/
inductive Element.Matches (R : Node Token → Node Token → Prop) :
    Element Token (Node Token) → Element Token (Node Token) → Prop
  | token {t u : Token} (kind : t.kind = u.kind) (text : t.text.text = u.text.text) :
      Matches R (.token t) (.token u)
  | node {m m' : Node Token} (h : R m m') : Matches R (.node m) (.node m')

/-- Two nodes that differ only in how groups of children are interleaved, in them and below. -/
inductive Node.Interleaved : Node Token → Node Token → Prop
  | of_groups {n n' : Node Token} (kind : n.kind = n'.kind)
      (groups : ∀ g, List.Forall₂ (Element.Matches Interleaved) (n.childrenIn n.kind g)
        (n'.childrenIn n.kind g)) : Interleaved n n'

/-- Two nodes, read as nodes of the kind `place`, with the same children in each group, up to how
groups are interleaved below. -/
def Node.GroupsMatch (place : NodeKind) (n n' : Node Token) : Prop :=
  ∀ g, List.Forall₂ (Element.Matches Node.Interleaved) (n.childrenIn place g)
    (n'.childrenIn place g)

/-- Two trees that differ only in how groups of children are interleaved.  The root is read as a
document, whatever its kind. -/
structure Tree.Interleaved (t t' : Tree) : Prop where
  kind : t.root.kind = t'.root.kind
  groups : t.root.GroupsMatch .document t'.root

namespace Node

variable {n n' : Node Token} {place : NodeKind}

theorem mem_nodes_of_mem_childrenIn {m : Node Token} {g : ChildGroup}
    (h : .node m ∈ n.childrenIn place g) : m ∈ n.nodes :=
  List.mem_filterMap.2 ⟨_, (List.mem_filter.1 h).1, rfl⟩

theorem Interleaved.kind_eq (h : n.Interleaved n') : n.kind = n'.kind := by
  cases h with
  | of_groups kind groups => exact kind

theorem Interleaved.groupsMatch (h : n.Interleaved n') : n.GroupsMatch n.kind n' := by
  cases h with
  | of_groups kind groups => exact groups

theorem Interleaved.groupsMatch_of_kind (h : n.Interleaved n') (hkind : n.kind = place) :
    n.GroupsMatch place n' :=
  hkind ▸ h.groupsMatch

/-- A node differs from itself in nothing. -/
theorem Interleaved.refl (n : Node Token) : n.Interleaved n := by
  induction n using Node.induction with
  | step n ih =>
    refine .of_groups rfl fun g => List.forall₂_same.2 fun c hc => ?_
    cases c with
    | token t => exact .token rfl rfl
    | node m => exact .node (ih m (mem_nodes_of_mem_childrenIn hc))

/-- The children of a group match in both directions when their nodes do. -/
theorem forall₂_symm {children children' : List (Element Token (Node Token))}
    (h : List.Forall₂ (Element.Matches Node.Interleaved) children children')
    (hsymm : ∀ m, .node m ∈ children → ∀ m', m.Interleaved m' → m'.Interleaved m) :
    List.Forall₂ (Element.Matches Node.Interleaved) children' children := by
  induction h with
  | nil => exact .nil
  | cons hc _ ih =>
    refine .cons ?_ (ih fun m hm => hsymm m (.tail _ hm))
    cases hc with
    | token kind text => exact .token kind.symm text.symm
    | node hm => exact .node (hsymm _ (.head _) _ hm)

/-- What differs from a node only so is a node that it differs from only so. -/
theorem Interleaved.symm (h : n.Interleaved n') : n'.Interleaved n := by
  induction n using Node.induction generalizing n' with
  | step n ih =>
    refine .of_groups h.kind_eq.symm fun g => ?_
    rw [← h.kind_eq]
    exact forall₂_symm (h.groupsMatch g) fun m hm m' =>
      ih m (mem_nodes_of_mem_childrenIn hm)

theorem GroupsMatch.symm (h : n.GroupsMatch place n') : n'.GroupsMatch place n := fun g =>
  forall₂_symm (h g) fun _ _ _ hm => hm.symm

/-! ### Children of one group -/

/-- The nodes of a group are those among its children. -/
theorem nodesIn_eq (n : Node Token) (place : NodeKind) (g : ChildGroup) :
    n.nodesIn place g = (n.childrenIn place g).filterMap Element.node? := by
  rw [nodesIn, nodes, childrenIn]
  induction n.children with
  | nil => rfl
  | cons c rest ih =>
    cases c with
    | token t =>
      rw [List.filter_cons]
      split_ifs <;> exact ih
    | node m =>
      by_cases hg : ChildGroup.ofNode place m.kind = g <;>
        simp [Element.node?, ChildGroup.of, hg, ih]

/-- The tokens of a kind are all in one group. -/
theorem tokensOf_eq (n : Node Token) (place : NodeKind) (k : TokenKind) :
    n.tokensOf k = ((n.childrenIn place (.ofToken place k)).filterMap Element.token?).filter
      fun t => t.kind == k := by
  rw [tokensOf, tokens, childrenIn]
  induction n.children with
  | nil => rfl
  | cons c rest ih =>
    cases c with
    | node m =>
      rw [List.filter_cons]
      split_ifs <;> exact ih
    | token t =>
      by_cases hkind : t.kind = k
      · simp [Element.token?, ChildGroup.of, hkind, ih]
      · by_cases hg : ChildGroup.ofToken place t.kind = .ofToken place k <;>
          simp [Element.token?, ChildGroup.of, hkind, hg, ih]

section Children

variable {R : Node Token → Node Token → Prop}
  {children children' : List (Element Token (Node Token))}

theorem forall₂_nodes (h : List.Forall₂ (Element.Matches R) children children') :
    List.Forall₂ R (children.filterMap Element.node?) (children'.filterMap Element.node?) := by
  refine List.rel_filterMap (fun c c' hc => ?_) h
  cases hc with
  | token => exact .none
  | node hm => exact .some hm

theorem exists_mem_of_forall₂ {α β : Type} {R : α → β → Prop} {xs : List α} {ys : List β}
    (h : List.Forall₂ R xs ys) {y : β} (hy : y ∈ ys) : ∃ x ∈ xs, R x y := by
  induction h with
  | nil => cases hy
  | @cons x y' xs ys hxy _ ih =>
    rcases List.mem_cons.1 hy with rfl | hy
    · exact ⟨x, .head _, hxy⟩
    · obtain ⟨z, hz, hzy⟩ := ih hy
      exact ⟨z, .tail _ hz, hzy⟩

theorem texts_eq (h : List.Forall₂ (Element.Matches R) children children') (k : TokenKind) :
    ((children.filterMap Element.token?).filter fun t => t.kind == k).map (fun t => t.text.text) =
      ((children'.filterMap Element.token?).filter fun t => t.kind == k).map
        fun t => t.text.text := by
  induction h with
  | nil => rfl
  | cons hc _ ih =>
    cases hc with
    | node hm => exact ih
    | @token t u kind text =>
      by_cases hkind : u.kind = k <;> simp [Element.token?, kind, text, hkind, ih]

end Children

/-! ### What is looked up -/

namespace GroupsMatch

variable (h : n.GroupsMatch place n')

include h

/-- The tokens of a kind have the same texts. -/
theorem textsOf_eq (k : TokenKind) : n.textsOf k = n'.textsOf k := by
  rw [textsOf, textsOf, tokensOf_eq n place, tokensOf_eq n' place]
  exact texts_eq (h _) k

theorem text?_eq (k : TokenKind) : n.text? k = n'.text? k := by
  rw [text?, text?, h.textsOf_eq]

theorem hasToken_eq (k : TokenKind) : n.hasToken k = n'.hasToken k := by
  rw [Bool.eq_iff_iff, hasToken_iff, hasToken_iff, h.text?_eq]

/-- The nodes of a group match one by one. -/
theorem nodesIn (g : ChildGroup) :
    List.Forall₂ Interleaved (n.nodesIn place g) (n'.nodesIn place g) := by
  rw [nodesIn_eq, nodesIn_eq]
  exact forall₂_nodes (h g)

/-- For each node on the one side there is one on the other. -/
theorem exists_node {m' : Node Token} (hm' : m' ∈ n'.nodes) : ∃ m ∈ n.nodes, m.Interleaved m' := by
  have hin : m' ∈ n'.nodesIn place (.ofNode place m'.kind) :=
    List.mem_filter.2 ⟨hm', decide_eq_true rfl⟩
  obtain ⟨m, hm, hmatch⟩ := exists_mem_of_forall₂ (h.nodesIn _) hin
  exact ⟨m, (List.mem_filter.1 hm).1, hmatch⟩

/-- The first nodes of a kind match, if there are any. -/
theorem node? (k : NodeKind) : Option.Rel Interleaved (n.node? k) (n'.node? k) := by
  have hfind (n : Node Token) :
      n.node? k = (n.nodesIn place (.ofNode place k)).find? fun m => m.kind == k := by
    rw [Node.node?, Node.nodesIn, List.find?_filter]
    congr 1
    funext m
    by_cases hkind : m.kind = k <;> simp [hkind]
  rw [hfind, hfind]
  have hmatch := h.nodesIn (.ofNode place k)
  generalize n.nodesIn place (.ofNode place k) = ms, n'.nodesIn place (.ofNode place k) = ms'
    at hmatch
  induction hmatch with
  | nil => exact .none
  | @cons m m' _ _ hm _ ih =>
    by_cases hkind : m'.kind = k
    · simpa [hm.kind_eq, hkind] using hm
    · simpa [hm.kind_eq, hkind] using ih

end GroupsMatch

/-! ### What is read -/

namespace Interleaved

variable (h : n.Interleaved n')

include h

theorem requireText_eq (k : TokenKind) : n.requireText k = n'.requireText k := by
  rw [requireText, requireText, h.groupsMatch.text?_eq, h.kind_eq]

theorem hasToken_eq (k : TokenKind) : n.hasToken k = n'.hasToken k := h.groupsMatch.hasToken_eq k

end Interleaved

end Node

theorem Tree.Interleaved.symm {t t' : Tree} (h : t.Interleaved t') : t'.Interleaved t where
  kind := h.kind.symm
  groups := h.groups.symm

end Syntax

namespace Stylesheet

variable {n n' : Node Token}

/-! ### Nodes whose children keep their order

What is read from them does not change at all, nor does a fault. -/

/-- The parts of a selector are read alike from children that match one by one. -/
theorem partsOf_eq_of_matches {parent : NodeKind} {q : Qualifier}
    {children children' : List (Element Token (Node Token))}
    (h : List.Forall₂ (Element.Matches Node.Interleaved) children children') :
    Selector.partsOf parent q children = Selector.partsOf parent q children' := by
  induction h generalizing q with
  | nil => rfl
  | cons hc _ ih =>
    cases hc with
    | token kind text => simp only [Selector.partsOf, kind, text, ih]
    | @node m m' hm =>
      have hpart : SelectorPart.ofNode q m = SelectorPart.ofNode q m' := by
        simp only [SelectorPart.ofNode, hm.groupsMatch.text?_eq, hm.hasToken_eq,
          hm.groupsMatch.textsOf_eq]
      simp only [Selector.partsOf, hm.kind_eq, hpart, ih]

/-- In a node of a kind all of whose children are one group the children match one by one. -/
theorem forall₂_children {place : NodeKind} (h : n.GroupsMatch place n')
    (hplace : ∀ c, ChildGroup.of place c = .others) :
    List.Forall₂ (Element.Matches Node.Interleaved) n.children n'.children := by
  have hall (n : Node Token) : n.childrenIn place .others = n.children :=
    List.filter_eq_self.2 fun c _ => decide_eq_true (hplace c)
  have hothers := h .others
  rw [hall, hall] at hothers
  exact hothers

theorem forall₂_nodes_of_others {place : NodeKind} (h : n.GroupsMatch place n')
    (hplace : ∀ c, ChildGroup.of place c = .others) :
    List.Forall₂ Node.Interleaved n.nodes n'.nodes :=
  Node.forall₂_nodes (forall₂_children h hplace)

theorem Selector.ofNode_eq_of_interleaved (h : n.Interleaved n') (hkind : n.kind = .selector) :
    Selector.ofNode n = Selector.ofNode n' := by
  have hchildren := forall₂_children (h.groupsMatch_of_kind hkind) (by rintro (_ | _) <;> rfl)
  rw [Selector.ofNode, Selector.ofNode, partsOf_eq_of_matches hchildren, h.kind_eq]

theorem PropertyName.inNode_eq_of_interleaved (h : n.Interleaved n') :
    PropertyName.inNode n = PropertyName.inNode n' := by
  rw [PropertyName.inNode, PropertyName.inNode, Node.requireNode, Node.requireNode, h.kind_eq]
  have hmatch := h.groupsMatch.node? .propertyName
  generalize n.node? .propertyName = m, n'.node? .propertyName = m' at hmatch
  cases hmatch with
  | none => rfl
  | some hm =>
    show PropertyName.ofNode _ = PropertyName.ofNode _
    simp only [PropertyName.ofNode, hm.requireText_eq, hm.groupsMatch.text?_eq]

theorem Selector.inNode?_eq_of_interleaved (h : n.Interleaved n') :
    Selector.inNode? n = Selector.inNode? n' := by
  rw [Selector.inNode?, Selector.inNode?]
  have hmatch := h.groupsMatch.node? .selector
  have hkind (m : Node Token) (hm : n.node? .selector = some m) : m.kind = .selector := by
    rw [Node.node?] at hm
    simpa using List.find?_some hm
  generalize n.node? .selector = m, n'.node? .selector = m' at hmatch hkind
  cases hmatch with
  | none => rfl
  | some hm =>
    show (Selector.ofNode _).map some = (Selector.ofNode _).map some
    rw [Selector.ofNode_eq_of_interleaved hm (hkind _ rfl)]

theorem Rule.ofNode_eq_of_interleaved (h : n.Interleaved n') : Rule.ofNode n = Rule.ofNode n' := by
  simp only [Rule.ofNode, PropertyName.inNode_eq_of_interleaved h, h.requireText_eq, h.hasToken_eq]

theorem Rule.ofTransition_eq_of_interleaved (h : n.Interleaved n') :
    Rule.ofTransition n = Rule.ofTransition n' := by
  simp only [Rule.ofTransition, h.hasToken_eq, h.groupsMatch.textsOf_eq]

theorem Condition.ofNode_eq_of_interleaved (h : n.Interleaved n') :
    Condition.ofNode n = Condition.ofNode n' := by
  simp only [Condition.ofNode, PropertyName.inNode_eq_of_interleaved h, h.requireText_eq]

theorem TriggerAction.ofNode_eq_of_interleaved {trigger : NodeKind} (h : n.Interleaved n') :
    TriggerAction.ofNode trigger n = TriggerAction.ofNode trigger n' := by
  simp only [TriggerAction.ofNode, Selector.inNode?_eq_of_interleaved h,
    PropertyName.inNode_eq_of_interleaved h, h.requireText_eq, h.kind_eq]

theorem Navigation.ofNode_eq_of_interleaved (h : n.Interleaved n') :
    Navigation.ofNode n = Navigation.ofNode n' := by
  simp only [Navigation.ofNode, h.requireText_eq]

theorem Keyframe.ofNode_eq_of_interleaved (h : n.Interleaved n') :
    Keyframe.ofNode n = Keyframe.ofNode n' := by
  simp only [Keyframe.ofNode, h.requireText_eq, h.groupsMatch.text?_eq]

theorem LoopBehavior.inNode_eq_of_interleaved (h : n.Interleaved n') :
    LoopBehavior.inNode n = LoopBehavior.inNode n' := by
  rw [LoopBehavior.inNode, LoopBehavior.inNode, h.groupsMatch.text?_eq]

/-! ### Nodes in a row -/

section Row

variable {ι : Type} {f : Node Token → Except Fault ι} {place : NodeKind} {items items' : List ι}

/-- Nodes that match one by one are read to the same items. -/
theorem mapM_of_forall₂ {nodes nodes' : List (Node Token)}
    (h : List.Forall₂ Node.Interleaved nodes nodes')
    (hf : ∀ {m m' i}, m.Interleaved m' → f m = .ok i → f m' = .ok i)
    (hitems : nodes.mapM f = .ok items) : nodes'.mapM f = .ok items := by
  have hrow := mapM_eq_ok_iff.1 hitems
  refine mapM_eq_ok_iff.2 ?_
  clear hitems
  induction h generalizing items with
  | nil =>
    cases hrow
    exact .nil
  | cons hm _ ih =>
    cases hrow with
    | cons hi hrest => exact .cons (hf hm hi) (ih hrest)

/-- Two rows from matching nodes of one group are the same. -/
theorem entries_eq {γ : Type} {make : γ → ι} {get? : ι → Option γ}
    (hmake : ∀ entry, get? (make entry) = some entry) {nodes nodes' : List (Node Token)}
    {entries entries' : List γ} (h : List.Forall₂ Node.Interleaved nodes nodes')
    (hf : ∀ {m m' i}, m.Interleaved m' → f m = .ok i → f m' = .ok i)
    (hentries : List.Forall₂ (fun m entry => f m = .ok (make entry)) nodes entries)
    (hentries' : List.Forall₂ (fun m entry => f m = .ok (make entry)) nodes' entries') :
    entries = entries' := by
  induction h generalizing entries entries' with
  | nil =>
    cases hentries
    cases hentries'
    rfl
  | cons hm _ ih =>
    cases hentries with
    | @cons _ entry _ _ hi hrest =>
      cases hentries' with
      | @cons _ entry' _ _ hi' hrest' =>
        have hsame : make entry = make entry' := Except.ok.inj ((hf hm hi).symm.trans hi')
        have hentry : some entry = some entry' := by rw [← hmake entry, hsame, hmake]
        rw [Option.some.inj hentry, ih hrest hrest']

/-- **If the nodes of the one side are read, so are those of the other, and the items of each sort
are the same.** -/
theorem exists_items_of_groupsMatch {group : ι → ChildGroup} (h : n.GroupsMatch place n')
    (hgroup : ∀ {m i}, f m = .ok i → ChildGroup.ofNode place m.kind = group i)
    (hf : ∀ {m m' i}, m.Interleaved m' → f m = .ok i → f m' = .ok i)
    (hitems : n.nodes.mapM f = .ok items) :
    ∃ items', n'.nodes.mapM f = .ok items' ∧
      ∀ {γ : Type} {g : ChildGroup} {make : γ → ι} {get? : ι → Option γ},
        IsSort group g make get? → items'.filterMap get? = items.filterMap get? := by
  obtain ⟨items', hitems'⟩ : ∃ items', n'.nodes.mapM f = .ok items' := by
    refine exists_mapM_eq_ok_iff.2 fun m' hm' => ?_
    obtain ⟨m, hm, hmatch⟩ := h.exists_node hm'
    obtain ⟨i, hi⟩ := exists_mapM_eq_ok_iff.1 ⟨items, hitems⟩ m hm
    exact ⟨i, hf hmatch hi⟩
  exact ⟨items', hitems', fun {_ g _ _} hsort => (entries_eq hsort.get?_make (h.nodesIn g) hf
    (hsort.forall₂ hgroup hitems) (hsort.forall₂ hgroup hitems')).symm⟩

end Row

/-! ### Triggers -/

theorem TriggerItem.ofNode_eq_of_interleaved {trigger : NodeKind} (h : n.Interleaved n') :
    TriggerItem.ofNode trigger n = TriggerItem.ofNode trigger n' := by
  simp only [TriggerItem.ofNode, h.kind_eq, Condition.ofNode_eq_of_interleaved h,
    TriggerAction.ofNode_eq_of_interleaved h]

theorem PropertyTrigger.ofNode_of_interleaved {t : PropertyTrigger} (h : n.Interleaved n')
    (hkind : n.kind = .propertyTrigger) (ht : PropertyTrigger.ofNode n = .ok t) :
    PropertyTrigger.ofNode n' = .ok t := by
  obtain ⟨items, hitems, ht⟩ := bind_eq_ok_iff.1 ht
  cases ht
  obtain ⟨items', hitems', hsame⟩ := exists_items_of_groupsMatch (h.groupsMatch_of_kind hkind)
    TriggerItem.group_of_ofNode (fun hm hi => TriggerItem.ofNode_eq_of_interleaved hm ▸ hi) hitems
  rw [PropertyTrigger.ofNode, ← h.kind_eq, hitems', ← hsame TriggerItem.isSort_condition,
    ← hsame TriggerItem.isSort_action, h.hasToken_eq]
  rfl

theorem EventTrigger.actionOf_eq_of_interleaved {trigger : NodeKind} (h : n.Interleaved n') :
    EventTrigger.actionOf trigger n = EventTrigger.actionOf trigger n' := by
  simp only [EventTrigger.actionOf, h.kind_eq, TriggerAction.ofNode_eq_of_interleaved h]

theorem EventTrigger.ofNode_of_interleaved {t : EventTrigger} (h : n.Interleaved n')
    (hkind : n.kind = .eventTrigger) (ht : EventTrigger.ofNode n = .ok t) :
    EventTrigger.ofNode n' = .ok t := by
  have hnodes := forall₂_nodes_of_others (h.groupsMatch_of_kind hkind) (by rintro (_ | _) <;> rfl)
  obtain ⟨event, hevent, ht⟩ := bind_eq_ok_iff.1 ht
  obtain ⟨actions, hactions, ht⟩ := bind_eq_ok_iff.1 ht
  cases ht
  have hactions' := mapM_of_forall₂ hnodes
    (fun hm hi => EventTrigger.actionOf_eq_of_interleaved hm ▸ hi) hactions
  rw [EventTrigger.ofNode, ← h.requireText_eq, ← h.kind_eq, h.groupsMatch.textsOf_eq, h.hasToken_eq]
  exact bind_eq_ok_iff.2 ⟨event, hevent, bind_eq_ok_iff.2 ⟨actions, hactions', rfl⟩⟩

/-! ### Rule sets -/

theorem RuleSetItem.ofNode_of_interleaved {parent : NodeKind} {i : RuleSetItem}
    (h : n.Interleaved n') (hi : RuleSetItem.ofNode parent n = .ok i) :
    RuleSetItem.ofNode parent n' = .ok i := by
  rw [RuleSetItem.ofNode] at hi ⊢
  rw [← h.kind_eq]
  cases hkind : n.kind <;> simp [hkind, map_eq_ok_iff] at hi ⊢
  case selector => simpa only [← Selector.ofNode_eq_of_interleaved h hkind] using hi
  case rule => simpa only [← Rule.ofNode_eq_of_interleaved h] using hi
  case transition => simpa only [← Rule.ofTransition_eq_of_interleaved h] using hi
  case propertyTrigger =>
    obtain ⟨t, ht, rfl⟩ := hi
    exact ⟨t, t.ofNode_of_interleaved h hkind ht, rfl⟩
  case eventTrigger =>
    obtain ⟨t, ht, rfl⟩ := hi
    exact ⟨t, t.ofNode_of_interleaved h hkind ht, rfl⟩

theorem RuleSet.ofNode_of_interleaved {s : RuleSet} (h : n.Interleaved n')
    (hkind : n.kind = .ruleSet) (hs : RuleSet.ofNode n = .ok s) : RuleSet.ofNode n' = .ok s := by
  obtain ⟨items, hitems, rfl⟩ := map_eq_ok_iff.1 hs
  obtain ⟨items', hitems', hsame⟩ := exists_items_of_groupsMatch (h.groupsMatch_of_kind hkind)
    RuleSetItem.group_of_ofNode RuleSetItem.ofNode_of_interleaved hitems
  rw [RuleSet.ofNode, ← h.kind_eq, hitems', RuleSet.ofItems, ← hsame RuleSetItem.isSort_selector,
    ← hsame RuleSetItem.isSort_rule, ← hsame RuleSetItem.isSort_trigger]
  rfl

/-! ### Storyboards -/

theorem AnimationItem.ofNode_eq_of_interleaved {parent : NodeKind} (h : n.Interleaved n') :
    AnimationItem.ofNode parent n = AnimationItem.ofNode parent n' := by
  simp only [AnimationItem.ofNode, h.kind_eq, Navigation.ofNode_eq_of_interleaved h,
    Keyframe.ofNode_eq_of_interleaved h]

theorem Animation.ofNode_of_interleaved {a : Animation} (h : n.Interleaved n')
    (hkind : n.kind = .animation) (ha : Animation.ofNode n = .ok a) :
    Animation.ofNode n' = .ok a := by
  obtain ⟨property, hproperty, ha⟩ := bind_eq_ok_iff.1 ha
  obtain ⟨items, hitems, ha⟩ := bind_eq_ok_iff.1 ha
  cases ha
  obtain ⟨items', hitems', hsame⟩ := exists_items_of_groupsMatch (h.groupsMatch_of_kind hkind)
    AnimationItem.group_of_ofNode (fun hm hi => AnimationItem.ofNode_eq_of_interleaved hm ▸ hi)
    hitems
  rw [Animation.ofNode, ← PropertyName.inNode_eq_of_interleaved h, hproperty, ← h.kind_eq, hitems',
    ← hsame AnimationItem.isSort_navigation, ← hsame AnimationItem.isSort_keyframe]
  rfl

theorem TargetItem.ofNode_of_interleaved {parent : NodeKind} {i : TargetItem}
    (h : n.Interleaved n') (hi : TargetItem.ofNode parent n = .ok i) :
    TargetItem.ofNode parent n' = .ok i := by
  rw [TargetItem.ofNode] at hi ⊢
  rw [← h.kind_eq]
  cases hkind : n.kind <;> simp [hkind, map_eq_ok_iff] at hi ⊢
  case selector => simpa only [← Selector.ofNode_eq_of_interleaved h hkind] using hi
  case animation =>
    obtain ⟨a, ha, rfl⟩ := hi
    exact ⟨a, a.ofNode_of_interleaved h hkind ha, rfl⟩

theorem StoryboardTarget.ofNode_of_interleaved {options : CompilerOptions} {t : StoryboardTarget}
    (h : n.Interleaved n') (hkind : n.kind = .storyboardTarget)
    (ht : StoryboardTarget.ofNode options n = .ok t) :
    StoryboardTarget.ofNode options n' = .ok t := by
  obtain ⟨items, hitems, ht⟩ := bind_eq_ok_iff.1 ht
  cases ht
  obtain ⟨items', hitems', hsame⟩ := exists_items_of_groupsMatch (h.groupsMatch_of_kind hkind)
    TargetItem.group_of_ofNode TargetItem.ofNode_of_interleaved hitems
  have hfilter : StoryboardTarget.filterOf options n = StoryboardTarget.filterOf options n' := by
    simp only [StoryboardTarget.filterOf, h.groupsMatch.textsOf_eq]
  rw [StoryboardTarget.ofNode, ← h.kind_eq, hitems', hfilter,
    ← hsame TargetItem.isSort_selector, ← hsame TargetItem.isSort_animation]
  rfl

theorem Storyboard.targetOf_of_interleaved {options : CompilerOptions} {parent : NodeKind}
    {t : StoryboardTarget} (h : n.Interleaved n')
    (ht : Storyboard.targetOf options parent n = .ok t) :
    Storyboard.targetOf options parent n' = .ok t := by
  rw [Storyboard.targetOf] at ht ⊢
  rw [← h.kind_eq]
  split_ifs at ht ⊢ with hkind
  exact t.ofNode_of_interleaved h hkind ht

theorem Storyboard.ofNode_of_interleaved {options : CompilerOptions} {s : Storyboard}
    (h : n.Interleaved n') (hkind : n.kind = .storyboard)
    (hs : Storyboard.ofNode options n = .ok s) : Storyboard.ofNode options n' = .ok s := by
  have hnodes := forall₂_nodes_of_others (h.groupsMatch_of_kind hkind) (by rintro (_ | _) <;> rfl)
  obtain ⟨name, hname, hs⟩ := bind_eq_ok_iff.1 hs
  obtain ⟨loopBehavior, hloop, hs⟩ := bind_eq_ok_iff.1 hs
  obtain ⟨targets, htargets, hs⟩ := bind_eq_ok_iff.1 hs
  cases hs
  have htargets' := mapM_of_forall₂ hnodes Storyboard.targetOf_of_interleaved htargets
  rw [Storyboard.ofNode, ← h.requireText_eq, ← LoopBehavior.inNode_eq_of_interleaved h, ← h.kind_eq]
  exact bind_eq_ok_iff.2 ⟨name, hname, bind_eq_ok_iff.2 ⟨loopBehavior, hloop,
    bind_eq_ok_iff.2 ⟨targets, htargets', rfl⟩⟩⟩

/-! ### Documents -/

theorem DocumentItem.ofNode_of_interleaved {options : CompilerOptions} {parent : NodeKind}
    {i : DocumentItem} (h : n.Interleaved n') (hi : DocumentItem.ofNode options parent n = .ok i) :
    DocumentItem.ofNode options parent n' = .ok i := by
  rw [DocumentItem.ofNode] at hi ⊢
  rw [← h.kind_eq]
  cases hkind : n.kind <;> simp [hkind, map_eq_ok_iff] at hi ⊢
  case ruleSet =>
    obtain ⟨s, hs, rfl⟩ := hi
    exact ⟨s, s.ofNode_of_interleaved h hkind hs, rfl⟩
  case storyboard =>
    obtain ⟨s, hs, rfl⟩ := hi
    exact ⟨s, s.ofNode_of_interleaved h hkind hs, rfl⟩

theorem Document.ofNode_of_interleaved {options : CompilerOptions} {t t' : Tree} {d : Document}
    (h : t.Interleaved t') (hd : Document.ofNode options t.root = .ok d) :
    Document.ofNode options t'.root = .ok d := by
  obtain ⟨items, hitems, rfl⟩ := map_eq_ok_iff.1 hd
  obtain ⟨items', hitems', hsame⟩ := exists_items_of_groupsMatch h.groups
    DocumentItem.group_of_ofNode DocumentItem.ofNode_of_interleaved hitems
  rw [Document.ofNode, ← h.kind, hitems', Document.ofItems, ← hsame DocumentItem.isSort_ruleSet,
    ← hsame DocumentItem.isSort_storyboard]
  rfl

/-- **Order counts within a group and not across groups.**  Let two trees without grave diagnostics
differ only in how groups of children are interleaved, at any depth.  Then both are compiled to the
same document, or neither is compiled; and every list in the document has one entry for each node of
its group, in the order of either tree. -/
theorem compile_of_interleaved (options : CompilerOptions) {t t' : Tree} (h : t.Interleaved t')
    (hsound : ∀ d ∈ t.diagnostics, ¬options.Grave d)
    (hsound' : ∀ d ∈ t'.diagnostics, ¬options.Grave d) :
    (∀ d, compile options t = .ok d ↔ compile options t' = .ok d) ∧
      ∀ d, compile options t = .ok d → d.Lists options t.root ∧ d.Lists options t'.root := by
  have hread {t : Tree} (hsound : ∀ d ∈ t.diagnostics, ¬options.Grave d) (d : Document) :
      compile options t = .ok d ↔ Document.ofNode options t.root = .ok d :=
    compile_eq_ok_iff.trans (and_iff_right (filter_rejects_eq_nil_iff.2 hsound))
  refine ⟨fun d => ?_, fun d hd => ?_⟩
  · rw [hread hsound, hread hsound']
    exact ⟨Document.ofNode_of_interleaved h, Document.ofNode_of_interleaved h.symm⟩
  · have hd := (hread hsound d).1 hd
    exact ⟨d.lists_of_ofNode hd, d.lists_of_ofNode (Document.ofNode_of_interleaved h hd)⟩

/-- A rule set before and behind a storyboard, with the children of the rule set, of its trigger, of
the target and of the animation in other orders: of two navigations the last counts in both. -/
theorem compile_of_interleaved_shuffled :
    let token (kind : TokenKind) (text : String) : Element Token (Node Token) :=
      .token { kind, text := .whole ⟨0, text⟩ }
    let node (kind : NodeKind) (children : List (Element Token (Node Token))) : Node Token :=
      { kind, children }
    let property : Node Token := node .propertyName [token .identifier "width"]
    let condition : Node Token :=
      node .condition [token .operator "==", .node property, token .value "1"]
    let action : Node Token := node .playSoundAction [token .value "click"]
    let important := token .important "!important"
    let trigger := node .propertyTrigger [important, .node condition, .node action]
    let trigger' := node .propertyTrigger [.node action, important, .node condition]
    let selector : Node Token := node .selector []
    let rule : Node Token := node .rule [.node property, token .value "2"]
    let transition : Node Token := node .transition [token .argument "width"]
    let ruleSet := node .ruleSet [.node selector, .node rule, .node transition, .node trigger]
    let ruleSet' := node .ruleSet [.node trigger', .node rule, .node selector, .node transition]
    let navigation (name : String) : Node Token :=
      node .navigation [token .identifier name, token .typeName "Brush"]
    let animation :=
      node .animation [.node property, .node (navigation "fill"), .node (navigation "pen")]
    let animation' :=
      node .animation [.node (navigation "fill"), .node property, .node (navigation "pen")]
    let target := node .storyboardTarget [token .typeName "Grid", .node selector, .node animation]
    let target' := node .storyboardTarget [.node animation', .node selector, token .typeName "Grid"]
    let storyboard (target : Node Token) : Node Token :=
      node .storyboard [token .identifier "grow", .node target]
    let tree (children : List (Element Token (Node Token))) : Tree :=
      { root := node .document children, source := ⟨0, ""⟩ }
    let t := tree [.node ruleSet, .node (storyboard target)]
    let t' := tree [.node (storyboard target'), .node ruleSet']
    t.Interleaved t' ∧ t.diagnostics = [] ∧ t'.diagnostics = [] ∧
      ∃ d, compile {} t = .ok d ∧ compile {} t' = .ok d ∧ d.Lists {} t'.root := by
  intro token node property condition action important trigger trigger' selector rule transition
    ruleSet ruleSet' navigation animation animation' target target' storyboard tree t t'
  have htrigger : trigger.Interleaved trigger' := .of_groups rfl fun g => by
    cases g
    case conditions => exact .cons (.node (.refl condition)) .nil
    case actions => exact .cons (.node (.refl action)) .nil
    case tokens => exact .cons (.token rfl rfl) .nil
    all_goals exact .nil
  have hruleSet : ruleSet.Interleaved ruleSet' := .of_groups rfl fun g => by
    cases g
    case selectors => exact .cons (.node (.refl selector)) .nil
    case rules => exact .cons (.node (.refl rule)) (.cons (.node (.refl transition)) .nil)
    case triggers => exact .cons (.node htrigger) .nil
    all_goals exact .nil
  have hanimation : animation.Interleaved animation' := .of_groups rfl fun g => by
    cases g
    case propertyNames => exact .cons (.node (.refl property)) .nil
    case navigations =>
      exact .cons (.node (.refl (navigation "fill"))) <|
        .cons (.node (.refl (navigation "pen"))) .nil
    all_goals exact .nil
  have htarget : target.Interleaved target' := .of_groups rfl fun g => by
    cases g
    case selectors => exact .cons (.node (.refl selector)) .nil
    case types => exact .cons (.token rfl rfl) .nil
    case animations => exact .cons (.node hanimation) .nil
    all_goals exact .nil
  have hstoryboard : (storyboard target).Interleaved (storyboard target') :=
    .of_groups rfl fun g => by
      cases g
      case others => exact .cons (.token rfl rfl) (.cons (.node htarget) .nil)
      all_goals exact .nil
  have htree : t.Interleaved t' := {
    kind := rfl
    groups := fun g => by
      cases g
      case ruleSets => exact .cons (.node hruleSet) .nil
      case storyboards => exact .cons (.node hstoryboard) .nil
      all_goals exact .nil }
  have hsound : ∀ d ∈ t.diagnostics, ¬({} : CompilerOptions).Grave d := fun d hd => nomatch hd
  have hsound' : ∀ d ∈ t'.diagnostics, ¬({} : CompilerOptions).Grave d := fun d hd => nomatch hd
  obtain ⟨hsame, hlists⟩ := compile_of_interleaved {} htree hsound hsound'
  exact ⟨htree, rfl, rfl, _, rfl, (hsame _).1 rfl, (hlists _ rfl).2⟩

end Stylesheet

end StyledText
