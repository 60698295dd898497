import StyledText.Proofs.Stylesheet.Rejected

/-!
# The grammar of stylesheets

Which trees are stylesheets is written down here kind by kind: what a node must have directly below
it, and what is asked in turn of the nodes there.  A node is only looked at where the node around it
names it, so

* the kind of the root, the tokens of a rule set and all that stands below a transition or a part of
  a selector are free;
* of several tokens or nodes of a kind where one is called for, **only the first is looked at**;
* the selectors of a rule set or of a target, the navigations of an animation and all else that is
  read in a row must be sound **one and all**, also where only the last one counts.

* `exists_mapM_eq_ok_iff` — a row is read when each of its members is.
* `exists_compile_eq_ok_iff_isDocument` — a tree without grave diagnostics is compiled exactly when
  it is a stylesheet.
-/

namespace StyledText

open Number Stylesheet

/-! ### The grammar -/

namespace Syntax.Node

/-- The node names a property: the first property name in it has an identifier. -/
def NamesProperty (n : Node Token) : Prop :=
  ∃ m, n.node? .propertyName = some m ∧ m.hasToken .identifier = true

/-- The node is a selector: all signs in it are those of qualifiers, and all nodes are parts. -/
structure IsSelector (n : Node Token) : Prop where
  signs : ∀ t ∈ n.tokensOf .childQualifier, t.text.text ∈ [">", ">>", "/"]
  parts : ∀ m ∈ n.nodes, m.kind = .selectorPart

/-- The node gives a property a value. -/
structure IsRule (n : Node Token) : Prop where
  property : n.NamesProperty
  value : n.hasToken .value = true

/-- The node compares a property with a value. -/
structure IsCondition (n : Node Token) : Prop where
  operator : ∃ sign ∈ ["==", "!=", ">", "<", ">=", "<="], n.text? .operator = some sign
  property : n.NamesProperty
  value : n.hasToken .value = true

/-- What an action must have besides a sound selector, by its kind. -/
def HasOperands (n : Node Token) : Prop :=
  match n.kind with
  | .playStoryboardAction => n.hasToken .identifier = true
  | .playSoundAction => n.hasToken .value = true
  | .setAction => n.NamesProperty ∧ n.hasToken .value = true
  | _ => False

/-- The node is an action.  The selector is looked at in any action, also in one that has no use for
it. -/
structure IsAction (n : Node Token) : Prop where
  selector : ∀ m, n.node? .selector = some m → m.IsSelector
  operands : n.HasOperands

/-- The nodes in a property trigger are conditions and actions. -/
def IsPropertyTrigger (n : Node Token) : Prop :=
  ∀ m ∈ n.nodes, m.kind = .condition ∧ m.IsCondition ∨ m.IsAction

/-- The node names an event, and the nodes in it are actions. -/
structure IsEventTrigger (n : Node Token) : Prop where
  event : n.hasToken .identifier = true
  actions : ∀ m ∈ n.nodes, m.IsAction

/-- The node may stand in a rule set. -/
def IsRuleSetItem (n : Node Token) : Prop :=
  match n.kind with
  | .selector => n.IsSelector
  | .rule => n.IsRule
  | .transition => True
  | .propertyTrigger => n.IsPropertyTrigger
  | .eventTrigger => n.IsEventTrigger
  | _ => False

/-- The node is a navigation. -/
structure IsNavigation (n : Node Token) : Prop where
  property : n.hasToken .identifier = true
  targetType : n.hasToken .typeName = true

/-- The node gives a value at a time, and the time is a number. -/
structure IsKeyframe (n : Node Token) : Prop where
  time : ∃ text, n.text? .time = some text ∧ ∃ seconds, Binary32.ofText? text = some seconds
  value : n.hasToken .value = true

/-- The node may stand in an animation. -/
def IsAnimationItem (n : Node Token) : Prop :=
  match n.kind with
  | .propertyName => True
  | .navigation => n.IsNavigation
  | .keyframe => n.IsKeyframe
  | _ => False

/-- The node is an animation of a property. -/
structure IsAnimation (n : Node Token) : Prop where
  property : n.NamesProperty
  items : ∀ m ∈ n.nodes, m.IsAnimationItem

/-- The node may stand in the target of a storyboard. -/
def IsTargetItem (n : Node Token) : Prop :=
  match n.kind with
  | .selector => n.IsSelector
  | .animation => n.IsAnimation
  | _ => False

/-- The node is a storyboard with a name, and the nodes in it are targets. -/
structure IsStoryboard (n : Node Token) : Prop where
  name : n.hasToken .identifier = true
  loopBehavior : ∀ keyword, n.text? .loopBehavior = some keyword →
    keyword ∈ ["none", "loop", "reverse"]
  targets : ∀ m ∈ n.nodes, m.kind = .storyboardTarget ∧ ∀ item ∈ m.nodes, item.IsTargetItem

/-- The nodes at the top of a stylesheet are rule sets and storyboards. -/
def IsDocument (root : Node Token) : Prop :=
  ∀ m ∈ root.nodes, m.kind = .ruleSet ∧ (∀ item ∈ m.nodes, item.IsRuleSetItem) ∨
    m.kind = .storyboard ∧ m.IsStoryboard

end Syntax.Node

namespace Stylesheet

open Syntax

/-! ### What can be read

Whether one reading after another succeeds is whether each does. -/

section Except

variable {ε α β : Type}

theorem exists_map_eq_ok_iff {x : Except ε α} {f : α → β} :
    (∃ b, x.map f = .ok b) ↔ ∃ a, x = .ok a := by
  cases x <;> simp [Except.map]

theorem bind_eq_ok_iff {x : Except ε α} {f : α → Except ε β} {b : β} :
    (x >>= f) = .ok b ↔ ∃ a, x = .ok a ∧ f a = .ok b := by
  cases x <;> simp [bind, Except.bind]

theorem exists_bind_eq_ok_iff {x : Except ε α} {f : α → Except ε β} :
    (∃ b, (x >>= f) = .ok b) ↔ ∃ a, x = .ok a ∧ ∃ b, f a = .ok b := by
  simp only [bind_eq_ok_iff]
  exact ⟨fun ⟨b, a, hx, hf⟩ => ⟨a, hx, b, hf⟩, fun ⟨a, hx, b, hf⟩ => ⟨b, a, hx, hf⟩⟩

theorem exists_pure_eq_ok {a : α} : (∃ b, (pure a : Except ε α) = .ok b) ↔ True :=
  ⟨fun _ => trivial, fun _ => ⟨a, rfl⟩⟩

/-- A row is read when each of its members is. -/
theorem exists_mapM_eq_ok_iff {f : α → Except ε β} {xs : List α} :
    (∃ ys, xs.mapM f = .ok ys) ↔ ∀ x ∈ xs, ∃ y, f x = .ok y := by
  induction xs with
  | nil => simp [pure, Except.pure]
  | cons x xs ih =>
    rw [List.mapM_cons, List.forall_mem_cons, ← ih]
    simp only [exists_bind_eq_ok_iff, pure, Except.pure]
    simp

end Except

variable {n : Node Token} {kind : TokenKind}

theorem hasToken_iff : n.hasToken kind = true ↔ ∃ text, n.text? kind = some text := by
  rw [Node.hasToken, Node.token?, Node.text?, Node.textsOf, List.head?_map]
  cases (n.tokensOf kind).head? <;> simp

theorem requireText_eq_ok_iff {text : String} :
    n.requireText kind = .ok text ↔ n.text? kind = some text := by
  rw [Node.requireText]
  cases n.text? kind <;> simp

theorem exists_requireText_eq_ok_iff :
    (∃ text, n.requireText kind = .ok text) ↔ n.hasToken kind = true := by
  simp only [requireText_eq_ok_iff, hasToken_iff]

theorem requireNode_eq_ok_iff {kind : NodeKind} {m : Node Token} :
    n.requireNode kind = .ok m ↔ n.node? kind = some m := by
  rw [Node.requireNode]
  cases n.node? kind <;> simp

/-! ### Selectors, rules and triggers -/

theorem exists_propertyName_inNode_iff :
    (∃ property, PropertyName.inNode n = .ok property) ↔ n.NamesProperty := by
  show (∃ property, (n.requireNode .propertyName >>= PropertyName.ofNode) = .ok property) ↔ _
  simp only [exists_bind_eq_ok_iff, PropertyName.ofNode, exists_map_eq_ok_iff,
    exists_requireText_eq_ok_iff, requireNode_eq_ok_iff, Node.NamesProperty]

theorem exists_qualifier_ofSign?_iff {sign : String} :
    (∃ qualifier, Qualifier.ofSign? sign = some qualifier) ↔ sign ∈ [">", ">>", "/"] := by
  rw [Qualifier.ofSign?]
  split_ifs <;> simp [*]

/-- The parts of a selector are read, from whatever qualifier on, when all signs and nodes among the
children are sound. -/
theorem exists_partsOf_iff {parent : NodeKind} {qualifier : Qualifier}
    {children : List (Element Token (Node Token))} :
    (∃ parts, Selector.partsOf parent qualifier children = .ok parts) ↔
      (∀ t ∈ children.filterMap Element.token?, t.kind = .childQualifier →
        t.text.text ∈ [">", ">>", "/"]) ∧
      ∀ m ∈ children.filterMap Element.node?, m.kind = .selectorPart := by
  induction children generalizing qualifier with
  | nil => simp [Selector.partsOf]
  | cons child rest ih =>
    cases child with
    | token t =>
      have hnode : (Element.token t : Element Token (Node Token)).node? = none := rfl
      have htoken : (Element.token t : Element Token (Node Token)).token? = some t := rfl
      rw [Selector.partsOf, List.filterMap_cons_none hnode, List.filterMap_cons_some htoken,
        List.forall_mem_cons, ← exists_qualifier_ofSign?_iff]
      by_cases hkind : t.kind = .childQualifier
      · rw [if_pos hkind]
        cases Qualifier.ofSign? t.text.text with
        | none => simp [hkind]
        | some next => simp [hkind, ih]
      · rw [if_neg hkind, ih]
        simp [hkind]
    | node m =>
      have hnode : (Element.node m : Element Token (Node Token)).node? = some m := rfl
      have htoken : (Element.node m : Element Token (Node Token)).token? = none := rfl
      rw [Selector.partsOf, List.filterMap_cons_some hnode, List.filterMap_cons_none htoken,
        List.forall_mem_cons]
      by_cases hkind : m.kind = .selectorPart
      · rw [if_pos hkind, exists_map_eq_ok_iff, ih]
        simp [hkind]
      · rw [if_neg hkind]
        simp [hkind]

theorem exists_selector_ofNode_iff :
    (∃ selector, Selector.ofNode n = .ok selector) ↔ n.IsSelector := by
  rw [Selector.ofNode, exists_map_eq_ok_iff, exists_partsOf_iff]
  constructor
  · rintro ⟨hsigns, hparts⟩
    refine ⟨fun t ht => ?_, hparts⟩
    obtain ⟨hmem, hkind⟩ := List.mem_filter.1 ht
    exact hsigns t hmem (eq_of_beq hkind)
  · rintro ⟨hsigns, hparts⟩
    exact ⟨fun t ht hkind => hsigns t (List.mem_filter.2 ⟨ht, beq_iff_eq.2 hkind⟩), hparts⟩

theorem exists_rule_ofNode_iff : (∃ rule, Rule.ofNode n = .ok rule) ↔ n.IsRule := by
  simp only [Rule.ofNode, exists_bind_eq_ok_iff, exists_pure_eq_ok, and_true, exists_and_right,
    exists_propertyName_inNode_iff, exists_requireText_eq_ok_iff]
  exact ⟨fun h => ⟨h.1, h.2⟩, fun h => ⟨h.property, h.value⟩⟩

theorem exists_comparison_ofSign?_iff {sign : String} :
    (∃ comparison, Comparison.ofSign? sign = some comparison) ↔
      sign ∈ ["==", "!=", ">", "<", ">=", "<="] := by
  rw [← Option.isSome_iff_exists, Comparison.ofSign?, List.find?_isSome]
  simp [Comparison.all, Comparison.sign, @eq_comm _ sign]

theorem exists_condition_ofNode_iff :
    (∃ condition, Condition.ofNode n = .ok condition) ↔ n.IsCondition := by
  have hreads : (∃ condition, Condition.ofNode n = .ok condition) ↔
      ∃ sign, n.text? .operator = some sign ∧
        sign ∈ ["==", "!=", ">", "<", ">=", "<="] ∧ n.NamesProperty ∧ n.hasToken .value = true := by
    rw [Condition.ofNode, exists_bind_eq_ok_iff]
    simp only [requireText_eq_ok_iff, ← exists_comparison_ofSign?_iff]
    refine exists_congr fun sign => and_congr_right fun _ => ?_
    cases Comparison.ofSign? sign with
    | none => simp
    | some comparison =>
      simp only [exists_bind_eq_ok_iff, exists_pure_eq_ok, and_true, exists_and_right,
        exists_propertyName_inNode_iff, exists_requireText_eq_ok_iff]
      simp
  rw [hreads]
  constructor
  · rintro ⟨sign, htext, hsign, hproperty, hvalue⟩
    exact ⟨⟨sign, hsign, htext⟩, hproperty, hvalue⟩
  · rintro ⟨⟨sign, hsign, htext⟩, hproperty, hvalue⟩
    exact ⟨sign, htext, hsign, hproperty, hvalue⟩

theorem exists_selector_inNode?_iff :
    (∃ selector, Selector.inNode? n = .ok selector) ↔
      ∀ m, n.node? .selector = some m → m.IsSelector := by
  rw [Selector.inNode?]
  cases n.node? .selector with
  | none => simp
  | some m => simp [exists_map_eq_ok_iff, exists_selector_ofNode_iff]

theorem exists_action_ofNode_iff {trigger : NodeKind} :
    (∃ action, TriggerAction.ofNode trigger n = .ok action) ↔ n.IsAction := by
  have hreads : (∃ action, TriggerAction.ofNode trigger n = .ok action) ↔
      (∃ selector, Selector.inNode? n = .ok selector) ∧ n.HasOperands := by
    rw [TriggerAction.ofNode, exists_bind_eq_ok_iff, ← exists_and_right]
    refine exists_congr fun selector => and_congr_right fun _ => ?_
    rw [Node.HasOperands]
    cases n.kind
    case playStoryboardAction | playSoundAction | setAction =>
      simp only [exists_bind_eq_ok_iff, exists_pure_eq_ok, and_true, exists_and_right,
        exists_propertyName_inNode_iff, exists_requireText_eq_ok_iff]
    all_goals simp
  rw [hreads, exists_selector_inNode?_iff]
  exact ⟨fun h => ⟨h.1, h.2⟩, fun h => ⟨h.selector, h.operands⟩⟩

/-- An action is of one of the kinds of actions. -/
theorem isAction_kind (h : n.IsAction) : n.kind.isAction = true := by
  have hoperands := h.operands
  rw [Node.HasOperands] at hoperands
  cases hkind : n.kind <;> simp [hkind, NodeKind.isAction] at hoperands ⊢

theorem exists_triggerItem_ofNode_iff {trigger : NodeKind} :
    (∃ item, TriggerItem.ofNode trigger n = .ok item) ↔
      n.kind = .condition ∧ n.IsCondition ∨ n.IsAction := by
  rw [TriggerItem.ofNode]
  split
  · next hcondition =>
    have haction : ¬n.IsAction := fun h => by
      have hkind := isAction_kind h
      rw [hcondition] at hkind
      cases hkind
    simp [hcondition, haction, exists_map_eq_ok_iff, exists_condition_ofNode_iff]
  · have hcondition : n.kind ≠ .condition := ‹_›
    split_ifs with hkind
    · simp [hcondition, exists_map_eq_ok_iff, exists_action_ofNode_iff]
    · have haction : ¬n.IsAction := fun h => hkind (isAction_kind h)
      simp [hcondition, haction]

theorem exists_propertyTrigger_ofNode_iff :
    (∃ trigger, PropertyTrigger.ofNode n = .ok trigger) ↔ n.IsPropertyTrigger := by
  simp only [PropertyTrigger.ofNode, exists_bind_eq_ok_iff, exists_pure_eq_ok, and_true,
    exists_mapM_eq_ok_iff, exists_triggerItem_ofNode_iff, Node.IsPropertyTrigger]

theorem exists_actionOf_iff {trigger : NodeKind} :
    (∃ action, EventTrigger.actionOf trigger n = .ok action) ↔ n.IsAction := by
  rw [EventTrigger.actionOf]
  split_ifs with hkind
  · exact exists_action_ofNode_iff
  · have haction : ¬n.IsAction := fun h => hkind (isAction_kind h)
    simp [haction]

theorem exists_eventTrigger_ofNode_iff :
    (∃ trigger, EventTrigger.ofNode n = .ok trigger) ↔ n.IsEventTrigger := by
  simp only [EventTrigger.ofNode, exists_bind_eq_ok_iff, exists_pure_eq_ok, and_true,
    exists_and_right, exists_requireText_eq_ok_iff, exists_mapM_eq_ok_iff, exists_actionOf_iff]
  exact ⟨fun h => ⟨h.1, h.2⟩, fun h => ⟨h.event, h.actions⟩⟩

theorem exists_ruleSetItem_ofNode_iff {parent : NodeKind} :
    (∃ item, RuleSetItem.ofNode parent n = .ok item) ↔ n.IsRuleSetItem := by
  rw [RuleSetItem.ofNode, Node.IsRuleSetItem]
  cases n.kind <;>
    simp [exists_map_eq_ok_iff, exists_selector_ofNode_iff, exists_rule_ofNode_iff,
      exists_propertyTrigger_ofNode_iff, exists_eventTrigger_ofNode_iff]

/-! ### Storyboards -/

theorem exists_navigation_ofNode_iff :
    (∃ navigation, Navigation.ofNode n = .ok navigation) ↔ n.IsNavigation := by
  simp only [Navigation.ofNode, exists_bind_eq_ok_iff, exists_pure_eq_ok, and_true,
    exists_and_right, exists_requireText_eq_ok_iff]
  exact ⟨fun h => ⟨h.1, h.2⟩, fun h => ⟨h.property, h.targetType⟩⟩

theorem exists_keyframe_ofNode_iff :
    (∃ keyframe, Keyframe.ofNode n = .ok keyframe) ↔ n.IsKeyframe := by
  have hreads : (∃ keyframe, Keyframe.ofNode n = .ok keyframe) ↔
      ∃ text, n.text? .time = some text ∧
        (∃ seconds, Binary32.ofText? text = some seconds) ∧ n.hasToken .value = true := by
    rw [Keyframe.ofNode, exists_bind_eq_ok_iff]
    simp only [requireText_eq_ok_iff]
    refine exists_congr fun text => and_congr_right fun _ => ?_
    cases Binary32.ofText? text with
    | none => simp
    | some seconds =>
      simp only [exists_bind_eq_ok_iff, exists_pure_eq_ok, and_true,
        exists_requireText_eq_ok_iff]
      simp
  rw [hreads]
  constructor
  · rintro ⟨text, htext, htime, hvalue⟩
    exact ⟨⟨text, htext, htime⟩, hvalue⟩
  · rintro ⟨⟨text, htext, htime⟩, hvalue⟩
    exact ⟨text, htext, htime, hvalue⟩

theorem exists_animationItem_ofNode_iff {parent : NodeKind} :
    (∃ item, AnimationItem.ofNode parent n = .ok item) ↔ n.IsAnimationItem := by
  rw [AnimationItem.ofNode, Node.IsAnimationItem]
  cases n.kind <;>
    simp [exists_map_eq_ok_iff, exists_navigation_ofNode_iff, exists_keyframe_ofNode_iff]

theorem exists_animation_ofNode_iff :
    (∃ animation, Animation.ofNode n = .ok animation) ↔ n.IsAnimation := by
  simp only [Animation.ofNode, exists_bind_eq_ok_iff, exists_pure_eq_ok, and_true,
    exists_and_right, exists_propertyName_inNode_iff, exists_mapM_eq_ok_iff,
    exists_animationItem_ofNode_iff]
  exact ⟨fun h => ⟨h.1, h.2⟩, fun h => ⟨h.property, h.items⟩⟩

theorem exists_targetItem_ofNode_iff {parent : NodeKind} :
    (∃ item, TargetItem.ofNode parent n = .ok item) ↔ n.IsTargetItem := by
  rw [TargetItem.ofNode, Node.IsTargetItem]
  cases n.kind <;>
    simp [exists_map_eq_ok_iff, exists_selector_ofNode_iff, exists_animation_ofNode_iff]

theorem exists_targetOf_iff {options : CompilerOptions} {parent : NodeKind} :
    (∃ target, Storyboard.targetOf options parent n = .ok target) ↔
      n.kind = .storyboardTarget ∧ ∀ item ∈ n.nodes, item.IsTargetItem := by
  rw [Storyboard.targetOf]
  split_ifs with hkind
  · simp only [StoryboardTarget.ofNode, exists_bind_eq_ok_iff, exists_pure_eq_ok, and_true,
      exists_mapM_eq_ok_iff, exists_targetItem_ofNode_iff, hkind, true_and]
  · simp [hkind]

theorem exists_loopBehavior_inNode_iff :
    (∃ behavior, LoopBehavior.inNode n = .ok behavior) ↔
      ∀ keyword, n.text? .loopBehavior = some keyword → keyword ∈ ["none", "loop", "reverse"] := by
  have hkeyword (keyword : String) : (∃ behavior, LoopBehavior.ofKeyword? keyword = some behavior) ↔
      keyword ∈ ["none", "loop", "reverse"] := by
    rw [← Option.isSome_iff_exists, LoopBehavior.ofKeyword?, List.find?_isSome]
    simp [LoopBehavior.all, LoopBehavior.keyword, @eq_comm _ keyword]
  rw [LoopBehavior.inNode]
  cases n.text? .loopBehavior with
  | none => simp
  | some keyword =>
    simp only [Option.some.injEq, forall_eq', ← hkeyword]
    cases LoopBehavior.ofKeyword? keyword <;> simp

theorem exists_storyboard_ofNode_iff {options : CompilerOptions} :
    (∃ storyboard, Storyboard.ofNode options n = .ok storyboard) ↔ n.IsStoryboard := by
  simp only [Storyboard.ofNode, exists_bind_eq_ok_iff, exists_pure_eq_ok, and_true,
    exists_and_right, exists_requireText_eq_ok_iff, exists_loopBehavior_inNode_iff,
    exists_mapM_eq_ok_iff, exists_targetOf_iff]
  exact ⟨fun h => ⟨h.1, h.2.1, h.2.2⟩, fun h => ⟨h.name, h.loopBehavior, h.targets⟩⟩

/-! ### Stylesheets -/

theorem exists_documentItem_ofNode_iff {options : CompilerOptions} {parent : NodeKind} :
    (∃ item, DocumentItem.ofNode options parent n = .ok item) ↔
      n.kind = .ruleSet ∧ (∀ item ∈ n.nodes, item.IsRuleSetItem) ∨
        n.kind = .storyboard ∧ n.IsStoryboard := by
  rw [DocumentItem.ofNode]
  cases n.kind <;>
    simp [exists_map_eq_ok_iff, RuleSet.ofNode, exists_mapM_eq_ok_iff,
      exists_ruleSetItem_ofNode_iff, exists_storyboard_ofNode_iff]

/-- **A tree without grave diagnostics is compiled exactly when it is a stylesheet**, whatever else
stands in it where nothing is looked for. -/
theorem exists_compile_eq_ok_iff_isDocument (options : CompilerOptions) (tree : Tree)
    (hsound : ∀ d ∈ tree.diagnostics, ¬options.Grave d) :
    (∃ document, compile options tree = .ok document) ↔ tree.root.IsDocument := by
  have hnone := filter_rejects_eq_nil_iff.2 hsound
  simp only [compile_eq_ok_iff, hnone, true_and, Document.ofNode, exists_map_eq_ok_iff,
    exists_mapM_eq_ok_iff, exists_documentItem_ofNode_iff, Node.IsDocument]

/-- A warning does no harm, a second property name need not name anything, nor need the nodes below a
part be in place, but a sign in a selector must be that of a qualifier. -/
theorem exists_compile_eq_ok_iff_isDocument_strays :
    let token (kind : TokenKind) (text : String) : Element Token (Node Token) :=
      .token { kind, text := .whole ⟨0, text⟩ }
    let warning : Diagnostic := { severity := .warning, code := .unexpectedToken }
    let part : Node Token :=
      { kind := .selectorPart, children := [.node { kind := .keyframe }], diagnostics := [warning] }
    let property : Node Token := { kind := .propertyName, children := [token .identifier "width"] }
    let rule : Node Token :=
      { kind := .rule, children := [token .value "1", token .value "2", .node property,
        .node { kind := .propertyName }] }
    let tree (sign : String) : Tree :=
      { root := { kind := .document, children := [.node { kind := .ruleSet, children := [
          .node { kind := .selector, children := [token .childQualifier sign, .node part] },
          .node rule] }] }
        source := ⟨0, ""⟩ }
    (∀ sign, (tree sign).diagnostics = [warning] ∧ ¬({} : CompilerOptions).Grave warning) ∧
      (tree ">>").root.IsDocument ∧ ¬(tree "~").root.IsDocument := by
  intro token warning part property rule tree
  have hgrave : ¬({} : CompilerOptions).Grave warning := by decide
  have hsound (sign : String) : ∀ d ∈ (tree sign).diagnostics, ¬({} : CompilerOptions).Grave d :=
    fun d hd => List.mem_singleton.1 (show d ∈ [warning] from hd) ▸ hgrave
  refine ⟨fun sign => ⟨rfl, hgrave⟩,
    (exists_compile_eq_ok_iff_isDocument {} (tree ">>") (hsound ">>")).1 ⟨_, rfl⟩, ?_⟩
  intro h
  obtain ⟨document, hcompile⟩ :=
    (exists_compile_eq_ok_iff_isDocument {} (tree "~") (hsound "~")).2 h
  cases hcompile

end Stylesheet

end StyledText
