import StyledText.Proofs.Stylesheet.Grammar

/-!
# What the lists of a document hold

The children of a node stand in **groups** by what they are: the rules and the transitions of a rule
set are one group, its triggers another.  A list in a compiled stylesheet comes from one group, and
**has one entry for each node of the group, in the order of the source**; what stands between them
leaves no trace.

* `ChildGroup` — the groups of children, by the kind of the node around them.
* `IsSort.forall₂` — of the items of a row, those of one sort come from one group.
* `Document.lists_of_ofNode` — the lists of a document and of all that is in it.
-/

namespace StyledText

open Syntax Stylesheet

/-! ### Groups -/

/-- A group of children of a node: what is read to one list, or looked up together. -/
inductive Stylesheet.ChildGroup where
  | ruleSets
  | storyboards
  | selectors
  /-- Rules and transitions. -/
  | rules
  /-- Property triggers and event triggers. -/
  | triggers
  | conditions
  | actions
  /-- The tokens of a property trigger. -/
  | tokens
  /-- The types that a target of a storyboard names. -/
  | types
  | animations
  | propertyNames
  | navigations
  | keyframes
  /-- All other children. -/
  | others
deriving DecidableEq, Repr

namespace Stylesheet.ChildGroup

/-- The group of a node inside another, by their kinds. -/
def ofNode : NodeKind → NodeKind → ChildGroup
  | .document, .ruleSet => .ruleSets
  | .document, .storyboard => .storyboards
  | .ruleSet, .selector => .selectors
  | .ruleSet, .rule | .ruleSet, .transition => .rules
  | .ruleSet, .propertyTrigger | .ruleSet, .eventTrigger => .triggers
  | .propertyTrigger, .condition => .conditions
  | .propertyTrigger, .playStoryboardAction | .propertyTrigger, .playSoundAction
  | .propertyTrigger, .setAction => .actions
  | .storyboardTarget, .selector => .selectors
  | .storyboardTarget, .animation => .animations
  | .animation, .propertyName => .propertyNames
  | .animation, .navigation => .navigations
  | .animation, .keyframe => .keyframes
  | _, _ => .others

/-- The group of a token inside a node, by their kinds. -/
def ofToken : NodeKind → TokenKind → ChildGroup
  | .propertyTrigger, _ => .tokens
  | .storyboardTarget, .typeName => .types
  | _, _ => .others

end Stylesheet.ChildGroup

/-- The nodes of a group, in a node that is read as one of the kind `place`. -/
def Syntax.Node.nodesIn (n : Node Token) (place : NodeKind) (g : ChildGroup) : List (Node Token) :=
  n.nodes.filter fun m => ChildGroup.ofNode place m.kind = g

namespace Stylesheet

/-! ### Items in a row -/

section Items

variable {ε α ι : Type} {f : α → Except ε ι} {xs : List α} {items : List ι}

theorem map_eq_ok_iff {β : Type} {x : Except ε α} {g : α → β} {b : β} :
    x.map g = .ok b ↔ ∃ a, x = .ok a ∧ g a = b := by
  cases x <;> simp [Except.map]

/-- A row is read to what its members are read to. -/
theorem mapM_eq_ok_iff :
    xs.mapM f = .ok items ↔ List.Forall₂ (fun x i => f x = .ok i) xs items := by
  induction xs generalizing items with
  | nil =>
    rw [List.mapM_nil, List.forall₂_nil_left_iff]
    exact ⟨fun h => by cases h; rfl, fun h => h ▸ rfl⟩
  | cons x xs ih =>
    rw [List.mapM_cons, bind_eq_ok_iff, List.forall₂_cons_left_iff]
    simp only [bind_eq_ok_iff, ih]
    constructor
    · rintro ⟨i, hx, is, hxs, h⟩
      cases h
      exact ⟨i, is, hx, hxs, rfl⟩
    · rintro ⟨i, is, hx, hxs, rfl⟩
      exact ⟨i, hx, is, hxs, rfl⟩

end Items

variable {n : Node Token}

/-- Items of one sort: they are made from entries, and come from the nodes of one group. -/
structure IsSort {ι γ : Type} (group : ι → ChildGroup) (g : ChildGroup) (make : γ → ι)
    (get? : ι → Option γ) : Prop where
  get?_make (entry : γ) : get? (make entry) = some entry
  group_make (entry : γ) : group (make entry) = g
  /-- No other items count for one of the sort. -/
  other (i : ι) : (∃ entry, i = make entry) ∨ get? i = none ∧ group i ≠ g

/-- **Of the items of a row, those of one sort come from the nodes of one group**, one for each and
in order. -/
theorem IsSort.forall₂ {ι γ : Type} {f : Node Token → Except Fault ι} {place : NodeKind}
    {group : ι → ChildGroup} {g : ChildGroup} {make : γ → ι} {get? : ι → Option γ}
    {items : List ι} (hsort : IsSort group g make get?)
    (hgroup : ∀ {m i}, f m = .ok i → ChildGroup.ofNode place m.kind = group i)
    (h : n.nodes.mapM f = .ok items) :
    List.Forall₂ (fun m entry => f m = .ok (make entry)) (n.nodesIn place g)
      (items.filterMap get?) := by
  have hrow := mapM_eq_ok_iff.1 h
  rw [Node.nodesIn]
  generalize n.nodes = nodes at hrow
  clear h
  induction hrow with
  | nil => exact .nil
  | @cons m i nodes items hm _ ih =>
    have hplace := hgroup hm
    obtain ⟨entry, rfl⟩ | ⟨hnone, hg⟩ := hsort.other i
    · rw [List.filter_cons, if_pos (decide_eq_true (hplace.trans (hsort.group_make entry))),
        List.filterMap_cons_some (hsort.get?_make entry)]
      exact .cons hm ih
    · rw [List.filter_cons, if_neg (by simpa [hplace] using hg),
        List.filterMap_cons_none hnone]
      exact ih

/-! ### Triggers -/

/-- The group that an item in a property trigger comes from. -/
def TriggerItem.group : TriggerItem → ChildGroup
  | .condition _ => .conditions
  | .action _ => .actions

theorem TriggerItem.isSort_condition : IsSort group .conditions .condition condition? :=
  ⟨fun _ => rfl, fun _ => rfl, by rintro (_ | _) <;> simp [group, condition?]⟩

theorem TriggerItem.isSort_action : IsSort group .actions .action action? :=
  ⟨fun _ => rfl, fun _ => rfl, by rintro (_ | _) <;> simp [group, action?]⟩

theorem TriggerItem.group_of_ofNode {trigger : NodeKind} {i : TriggerItem}
    (h : TriggerItem.ofNode trigger n = .ok i) :
    ChildGroup.ofNode .propertyTrigger n.kind = i.group := by
  rw [TriggerItem.ofNode] at h
  cases hkind : n.kind <;> simp [hkind, NodeKind.isAction, map_eq_ok_iff] at h
  all_goals
    obtain ⟨a, -, rfl⟩ := h
    rfl

/-- The lists of a property trigger have one entry for each node of their groups, in order. -/
structure PropertyTrigger.Lists (n : Node Token) (t : PropertyTrigger) : Prop where
  conditions : List.Forall₂ (fun m c => TriggerItem.ofNode n.kind m = .ok (.condition c))
    (n.nodesIn .propertyTrigger .conditions) t.conditions
  actions : List.Forall₂ (fun m a => TriggerItem.ofNode n.kind m = .ok (.action a))
    (n.nodesIn .propertyTrigger .actions) t.actions

theorem PropertyTrigger.lists_of_ofNode {t : PropertyTrigger}
    (h : PropertyTrigger.ofNode n = .ok t) : t.Lists n := by
  obtain ⟨items, hitems, h⟩ := bind_eq_ok_iff.1 h
  cases h
  exact {
    conditions := TriggerItem.isSort_condition.forall₂ TriggerItem.group_of_ofNode hitems
    actions := TriggerItem.isSort_action.forall₂ TriggerItem.group_of_ofNode hitems }

/-- The actions of an event trigger are those of the nodes in it, in order. -/
def EventTrigger.Lists (n : Node Token) (t : EventTrigger) : Prop :=
  List.Forall₂ (fun m a => EventTrigger.actionOf n.kind m = .ok a) n.nodes t.actions

theorem EventTrigger.lists_of_ofNode {t : EventTrigger} (h : EventTrigger.ofNode n = .ok t) :
    t.Lists n := by
  obtain ⟨event, -, h⟩ := bind_eq_ok_iff.1 h
  obtain ⟨actions, hactions, h⟩ := bind_eq_ok_iff.1 h
  cases h
  exact mapM_eq_ok_iff.1 hactions

/-- The lists of a trigger of either sort. -/
def Trigger.Lists (n : Node Token) : Trigger → Prop
  | .property t => t.Lists n
  | .event t => t.Lists n

/-! ### Rule sets -/

/-- The group that an item in a rule set comes from. -/
def RuleSetItem.group : RuleSetItem → ChildGroup
  | .selector _ => .selectors
  | .rule _ => .rules
  | .trigger _ => .triggers

theorem RuleSetItem.isSort_selector : IsSort group .selectors .selector selector? :=
  ⟨fun _ => rfl, fun _ => rfl, by rintro (_ | _ | _) <;> simp [group, selector?]⟩

theorem RuleSetItem.isSort_rule : IsSort group .rules .rule rule? :=
  ⟨fun _ => rfl, fun _ => rfl, by rintro (_ | _ | _) <;> simp [group, rule?]⟩

theorem RuleSetItem.isSort_trigger : IsSort group .triggers .trigger trigger? :=
  ⟨fun _ => rfl, fun _ => rfl, by rintro (_ | _ | _) <;> simp [group, trigger?]⟩

theorem RuleSetItem.group_of_ofNode {parent : NodeKind} {i : RuleSetItem}
    (h : RuleSetItem.ofNode parent n = .ok i) : ChildGroup.ofNode .ruleSet n.kind = i.group := by
  rw [RuleSetItem.ofNode] at h
  cases hkind : n.kind <;> simp [hkind, map_eq_ok_iff] at h
  case transition => rw [← h]; rfl
  all_goals
    obtain ⟨a, -, rfl⟩ := h
    rfl

theorem RuleSetItem.lists_of_ofNode_eq_trigger {parent : NodeKind} {t : Trigger}
    (h : RuleSetItem.ofNode parent n = .ok (.trigger t)) : t.Lists n := by
  rw [RuleSetItem.ofNode] at h
  cases hkind : n.kind <;> simp [hkind, map_eq_ok_iff] at h
  case propertyTrigger =>
    obtain ⟨t, ht, rfl⟩ := h
    exact t.lists_of_ofNode ht
  case eventTrigger =>
    obtain ⟨t, ht, rfl⟩ := h
    exact t.lists_of_ofNode ht

/-- The lists of a rule set have one entry for each node of their groups, in order. -/
structure RuleSet.Lists (n : Node Token) (s : RuleSet) : Prop where
  selectors : List.Forall₂ (fun m x => RuleSetItem.ofNode n.kind m = .ok (.selector x))
    (n.nodesIn .ruleSet .selectors) s.selectors
  rules : List.Forall₂ (fun m r => RuleSetItem.ofNode n.kind m = .ok (.rule r))
    (n.nodesIn .ruleSet .rules) s.rules
  triggers : List.Forall₂ (fun m t => RuleSetItem.ofNode n.kind m = .ok (.trigger t) ∧ t.Lists m)
    (n.nodesIn .ruleSet .triggers) s.triggers

theorem RuleSet.lists_of_ofNode {s : RuleSet} (h : RuleSet.ofNode n = .ok s) : s.Lists n := by
  obtain ⟨items, hitems, rfl⟩ := map_eq_ok_iff.1 h
  have htriggers := RuleSetItem.isSort_trigger.forall₂ RuleSetItem.group_of_ofNode hitems
  exact {
    selectors := RuleSetItem.isSort_selector.forall₂ RuleSetItem.group_of_ofNode hitems
    rules := RuleSetItem.isSort_rule.forall₂ RuleSetItem.group_of_ofNode hitems
    triggers := htriggers.imp fun m t hm => ⟨hm, RuleSetItem.lists_of_ofNode_eq_trigger hm⟩ }

/-! ### Storyboards -/

/-- The group that an item in an animation comes from. -/
def AnimationItem.group : AnimationItem → ChildGroup
  | .property => .propertyNames
  | .navigation _ => .navigations
  | .keyframe _ => .keyframes

theorem AnimationItem.isSort_navigation : IsSort group .navigations .navigation navigation? :=
  ⟨fun _ => rfl, fun _ => rfl, by rintro (_ | _ | _) <;> simp [group, navigation?]⟩

theorem AnimationItem.isSort_keyframe : IsSort group .keyframes .keyframe keyframe? :=
  ⟨fun _ => rfl, fun _ => rfl, by rintro (_ | _ | _) <;> simp [group, keyframe?]⟩

theorem AnimationItem.group_of_ofNode {parent : NodeKind} {i : AnimationItem}
    (h : AnimationItem.ofNode parent n = .ok i) :
    ChildGroup.ofNode .animation n.kind = i.group := by
  rw [AnimationItem.ofNode] at h
  cases hkind : n.kind <;> simp [hkind, map_eq_ok_iff] at h
  case propertyName => rw [← h]; rfl
  all_goals
    obtain ⟨a, -, rfl⟩ := h
    rfl

/-- The keyframes of an animation are those of its nodes, in order; the navigation is the last. -/
structure Animation.Lists (n : Node Token) (a : Animation) : Prop where
  keyframes : List.Forall₂ (fun m k => AnimationItem.ofNode n.kind m = .ok (.keyframe k))
    (n.nodesIn .animation .keyframes) a.keyframes
  navigation : ∃ navigations, a.navigation = navigations.getLast? ∧
    List.Forall₂ (fun m x => AnimationItem.ofNode n.kind m = .ok (.navigation x))
      (n.nodesIn .animation .navigations) navigations

theorem Animation.lists_of_ofNode {a : Animation} (h : Animation.ofNode n = .ok a) : a.Lists n := by
  obtain ⟨property, -, h⟩ := bind_eq_ok_iff.1 h
  obtain ⟨items, hitems, h⟩ := bind_eq_ok_iff.1 h
  cases h
  exact {
    keyframes := AnimationItem.isSort_keyframe.forall₂ AnimationItem.group_of_ofNode hitems
    navigation :=
      ⟨_, rfl, AnimationItem.isSort_navigation.forall₂ AnimationItem.group_of_ofNode hitems⟩ }

/-- The group that an item in a target comes from. -/
def TargetItem.group : TargetItem → ChildGroup
  | .selector _ => .selectors
  | .animation _ => .animations

theorem TargetItem.isSort_selector : IsSort group .selectors .selector selector? :=
  ⟨fun _ => rfl, fun _ => rfl, by rintro (_ | _) <;> simp [group, selector?]⟩

theorem TargetItem.isSort_animation : IsSort group .animations .animation animation? :=
  ⟨fun _ => rfl, fun _ => rfl, by rintro (_ | _) <;> simp [group, animation?]⟩

theorem TargetItem.group_of_ofNode {parent : NodeKind} {i : TargetItem}
    (h : TargetItem.ofNode parent n = .ok i) :
    ChildGroup.ofNode .storyboardTarget n.kind = i.group := by
  rw [TargetItem.ofNode] at h
  cases hkind : n.kind <;> simp [hkind, map_eq_ok_iff] at h
  all_goals
    obtain ⟨a, -, rfl⟩ := h
    rfl

theorem TargetItem.lists_of_ofNode_eq_animation {parent : NodeKind} {a : Animation}
    (h : TargetItem.ofNode parent n = .ok (.animation a)) : a.Lists n := by
  rw [TargetItem.ofNode] at h
  cases hkind : n.kind <;> simp [hkind, map_eq_ok_iff] at h
  case animation => exact a.lists_of_ofNode h

/-- The animations of a target are those of its nodes, in order; the selector is the last, and the
types are those that are named, if any. -/
structure StoryboardTarget.Lists (n : Node Token) (t : StoryboardTarget) : Prop where
  selector : ∃ selectors, t.selector = selectors.getLast? ∧
    List.Forall₂ (fun m x => TargetItem.ofNode n.kind m = .ok (.selector x))
      (n.nodesIn .storyboardTarget .selectors) selectors
  types : n.textsOf .typeName ≠ [] → t.filter = n.textsOf .typeName
  animations : List.Forall₂ (fun m a => TargetItem.ofNode n.kind m = .ok (.animation a) ∧ a.Lists m)
    (n.nodesIn .storyboardTarget .animations) t.animations

theorem StoryboardTarget.lists_of_ofNode {options : CompilerOptions} {t : StoryboardTarget}
    (h : StoryboardTarget.ofNode options n = .ok t) : t.Lists n := by
  obtain ⟨items, hitems, h⟩ := bind_eq_ok_iff.1 h
  cases h
  have hanimations := TargetItem.isSort_animation.forall₂ TargetItem.group_of_ofNode hitems
  exact {
    selector := ⟨_, rfl, TargetItem.isSort_selector.forall₂ TargetItem.group_of_ofNode hitems⟩
    types := fun htypes => by
      show StoryboardTarget.filterOf options n = _
      rw [StoryboardTarget.filterOf, if_neg (by simpa using htypes)]
    animations := hanimations.imp fun m a hm => ⟨hm, TargetItem.lists_of_ofNode_eq_animation hm⟩ }

/-- The targets of a storyboard are those of the nodes in it, in order. -/
def Storyboard.Lists (options : CompilerOptions) (n : Node Token) (s : Storyboard) : Prop :=
  List.Forall₂ (fun m t => Storyboard.targetOf options n.kind m = .ok t ∧ t.Lists m) n.nodes
    s.targets

theorem Storyboard.lists_of_ofNode {options : CompilerOptions} {s : Storyboard}
    (h : Storyboard.ofNode options n = .ok s) : s.Lists options n := by
  obtain ⟨name, -, h⟩ := bind_eq_ok_iff.1 h
  obtain ⟨loopBehavior, -, h⟩ := bind_eq_ok_iff.1 h
  obtain ⟨targets, htargets, h⟩ := bind_eq_ok_iff.1 h
  cases h
  refine (mapM_eq_ok_iff.1 htargets).imp fun m t hm => ⟨hm, ?_⟩
  rw [Storyboard.targetOf] at hm
  split_ifs at hm
  exact t.lists_of_ofNode hm

/-! ### Documents -/

/-- The group that an item at the top comes from. -/
def DocumentItem.group : DocumentItem → ChildGroup
  | .ruleSet _ => .ruleSets
  | .storyboard _ => .storyboards

theorem DocumentItem.isSort_ruleSet : IsSort group .ruleSets .ruleSet ruleSet? :=
  ⟨fun _ => rfl, fun _ => rfl, by rintro (_ | _) <;> simp [group, ruleSet?]⟩

theorem DocumentItem.isSort_storyboard : IsSort group .storyboards .storyboard storyboard? :=
  ⟨fun _ => rfl, fun _ => rfl, by rintro (_ | _) <;> simp [group, storyboard?]⟩

theorem DocumentItem.group_of_ofNode {options : CompilerOptions} {parent : NodeKind}
    {i : DocumentItem} (h : DocumentItem.ofNode options parent n = .ok i) :
    ChildGroup.ofNode .document n.kind = i.group := by
  rw [DocumentItem.ofNode] at h
  cases hkind : n.kind <;> simp [hkind, map_eq_ok_iff] at h
  all_goals
    obtain ⟨a, -, rfl⟩ := h
    rfl

theorem DocumentItem.lists_of_ofNode_eq_ruleSet {options : CompilerOptions} {parent : NodeKind}
    {s : RuleSet} (h : DocumentItem.ofNode options parent n = .ok (.ruleSet s)) : s.Lists n := by
  rw [DocumentItem.ofNode] at h
  cases hkind : n.kind <;> simp [hkind, map_eq_ok_iff] at h
  case ruleSet => exact s.lists_of_ofNode h

theorem DocumentItem.lists_of_ofNode_eq_storyboard {options : CompilerOptions} {parent : NodeKind}
    {s : Storyboard} (h : DocumentItem.ofNode options parent n = .ok (.storyboard s)) :
    s.Lists options n := by
  rw [DocumentItem.ofNode] at h
  cases hkind : n.kind <;> simp [hkind, map_eq_ok_iff] at h
  case storyboard => exact s.lists_of_ofNode h

/-- The lists of a document, and all lists in its entries, have one entry for each node of their
groups, in order. -/
structure Document.Lists (options : CompilerOptions) (root : Node Token) (d : Document) : Prop where
  ruleSets : List.Forall₂
    (fun m s => DocumentItem.ofNode options root.kind m = .ok (.ruleSet s) ∧ s.Lists m)
    (root.nodesIn .document .ruleSets) d.ruleSets
  storyboards : List.Forall₂
    (fun m s => DocumentItem.ofNode options root.kind m = .ok (.storyboard s) ∧ s.Lists options m)
    (root.nodesIn .document .storyboards) d.storyboards

theorem Document.lists_of_ofNode {options : CompilerOptions} {root : Node Token} {d : Document}
    (h : Document.ofNode options root = .ok d) : d.Lists options root := by
  obtain ⟨items, hitems, rfl⟩ := map_eq_ok_iff.1 h
  have hruleSets := DocumentItem.isSort_ruleSet.forall₂ DocumentItem.group_of_ofNode hitems
  have hstoryboards := DocumentItem.isSort_storyboard.forall₂ DocumentItem.group_of_ofNode hitems
  exact {
    ruleSets := hruleSets.imp fun m s hm => ⟨hm, DocumentItem.lists_of_ofNode_eq_ruleSet hm⟩
    storyboards := hstoryboards.imp fun m s hm =>
      ⟨hm, DocumentItem.lists_of_ofNode_eq_storyboard hm⟩ }

end Stylesheet

end StyledText
