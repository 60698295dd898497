import StyledText.Proofs.Stylesheet.Rejected
import StyledText.Proofs.Stylesheet.Written
import StyledText.Proofs.Syntax.Building

/-!
# Written stylesheets are read as they are meant

What is read from a node stands in its outline: its kind, the texts of its tokens, and the nodes
directly below.  So from a node with the outline of a written piece of a stylesheet **the meaning of
the piece is read**, piece by piece up to the whole.  A builder makes the outline that it was told
(`outline_finish_run`), and this takes a stylesheet from the calls of its parser to the document.

* `textsOf_of_outline`, `nodes_of_outline`, `node?_of_outline` — what stands in an outline.
* `Reads` — what is read from nodes in a row, given their outlines.
* `compile_calls` — a written stylesheet is compiled to its meaning.
-/

namespace StyledText.Stylesheet

open Syntax

/-! ### Nodes with an outline -/

section Node

variable {n : Node Token} {kind : NodeKind} {k : TokenKind} {ds : List Diagnostic}
  {os : List Outline}

theorem kind_of_outline (h : n.outline Token.outline = .node kind ds os) : n.kind = kind := by
  cases n
  cases h
  rfl

theorem outlineBelow_children (h : n.outline Token.outline = .node kind ds os) :
    Node.outlineBelow Token.outline n.children = os := by
  cases n
  cases h
  rfl

theorem textsOf_of_outline (h : n.outline Token.outline = .node kind ds os) :
    n.textsOf k = Outline.textsOf k os := by
  rw [← outlineBelow_children h, Node.textsOf, Node.tokensOf, Node.tokens]
  induction n.children with
  | nil => rfl
  | cons child rest ih =>
    cases child with
    | token t =>
      have htoken : (Element.token t : Element Token (Node Token)).token? = some t := rfl
      rw [List.filterMap_cons_some htoken, List.filter_cons, Node.outlineBelow, Token.outline,
        Outline.textsOf_token, ← ih]
      by_cases hkind : t.kind = k <;> simp [hkind]
    | node m =>
      cases m
      exact ih

theorem text?_of_outline (h : n.outline Token.outline = .node kind ds os) :
    n.text? k = (Outline.textsOf k os).head? := by
  rw [Node.text?, textsOf_of_outline h]

theorem hasToken_of_outline (h : n.outline Token.outline = .node kind ds os) :
    n.hasToken k = (Outline.textsOf k os).head?.isSome := by
  rw [← text?_of_outline h, Node.hasToken, Node.token?, Node.text?, Node.textsOf, List.head?_map,
    Option.isSome_map]

theorem nodes_of_outline (h : n.outline Token.outline = .node kind ds os) :
    n.nodes.map (Node.outline Token.outline) = Outline.nodesOf os := by
  rw [← outlineBelow_children h, Node.nodes]
  induction n.children with
  | nil => rfl
  | cons child rest ih =>
    cases child with
    | token t => exact ih
    | node m =>
      cases m
      exact congrArg (_ :: ·) ih

theorem node?_of_outline (h : n.outline Token.outline = .node kind ds os) {child : NodeKind} :
    (n.node? child).map (Node.outline Token.outline) = Outline.node? child os := by
  rw [Outline.node?, ← nodes_of_outline h, List.find?_map, Node.node?]
  congr 2
  funext m
  cases m with
  | mk found span children diagnostics =>
    show (found == child) = decide (some found = some child)
    simp only [Option.some.injEq, beq_eq_decide]

/-- A text that stands first among those of a kind is read. -/
theorem requireText_of_outline {text : String} (h : n.outline Token.outline = .node kind ds os)
    (htext : (Outline.textsOf k os).head? = some text) : n.requireText k = .ok text := by
  rw [Node.requireText, text?_of_outline h, htext]

theorem exists_node?_of_outline {child : NodeKind} {o : Outline}
    (h : n.outline Token.outline = .node kind ds os) (hfind : Outline.node? child os = some o) :
    ∃ m, n.node? child = some m ∧ m.outline Token.outline = o :=
  Option.map_eq_some_iff.1 ((node?_of_outline h).trans hfind)

theorem node?_eq_none_of_outline {child : NodeKind} (h : n.outline Token.outline = .node kind ds os)
    (hfind : Outline.node? child os = none) : n.node? child = none :=
  Option.map_eq_none_iff.1 ((node?_of_outline h).trans hfind)

end Node

/-! ### Nodes in a row -/

/-- From nodes with the outlines the results are read. -/
def Reads {β : Type} (f : Node Token → Except Fault β) (os : List Outline) (results : List β) :
    Prop :=
  ∀ nodes : List (Node Token), nodes.map (Node.outline Token.outline) = os →
    nodes.mapM f = .ok results

namespace Reads

variable {α β : Type} {f : Node Token → Except Fault β} {os os' : List Outline}
  {results results' : List β}

theorem append (h : Reads f os results) (h' : Reads f os' results') :
    Reads f (os ++ os') (results ++ results') := by
  intro nodes hnodes
  obtain ⟨first, second, rfl, hfirst, hsecond⟩ := List.map_eq_append_iff.1 hnodes
  rw [List.mapM_append, h first hfirst, h' second hsecond]
  rfl

/-- A row is read when each of its members is. -/
theorem map {outline : α → Outline} {meaning : α → β}
    (h : ∀ x n, n.outline Token.outline = outline x → f n = .ok (meaning x)) (xs : List α) :
    Reads f (xs.map outline) (xs.map meaning) := by
  induction xs with
  | nil =>
    intro nodes hnodes
    rw [List.map_eq_nil_iff.1 hnodes]
    rfl
  | cons x xs ih =>
    intro nodes hnodes
    obtain ⟨n, rest, rfl, hn, hrest⟩ := List.map_eq_cons_iff.1 hnodes
    rw [List.mapM_cons, h x n hn, ih rest hrest]
    rfl

end Reads

/-! ### Selectors -/

variable {n : Node Token}

section Children

variable {children : List (Element Token (Node Token))} {os : List Outline}

theorem outlineBelow_eq_nil (h : Node.outlineBelow Token.outline children = []) :
    children = [] := by
  cases children with
  | nil => rfl
  | cons child rest => cases child <;> cases h

theorem outlineBelow_eq_token_cons {kind : TokenKind} {text : String}
    (h : Node.outlineBelow Token.outline children = .token kind text :: os) :
    ∃ t rest, children = .token t :: rest ∧ t.kind = kind ∧ t.text.text = text ∧
      Node.outlineBelow Token.outline rest = os := by
  cases children with
  | nil => cases h
  | cons child rest =>
    cases child with
    | token t =>
      cases h
      exact ⟨t, rest, rfl, rfl, rfl, rfl⟩
    | node m =>
      cases m
      cases h

theorem outlineBelow_eq_node_cons {kind : NodeKind} {ds : List Diagnostic} {below : List Outline}
    (h : Node.outlineBelow Token.outline children = .node kind ds below :: os) :
    ∃ m rest, children = .node m :: rest ∧ m.outline Token.outline = .node kind ds below ∧
      Node.outlineBelow Token.outline rest = os := by
  cases children with
  | nil => cases h
  | cons child rest =>
    cases child with
    | token t => cases h
    | node m =>
      obtain ⟨hm, hrest⟩ := List.cons_eq_cons.1 h
      exact ⟨m, rest, rfl, hm, hrest⟩

end Children

theorem WrittenPart.ofNode_of_outline {p : WrittenPart}
    (h : n.outline Token.outline = .node .selectorPart [] p.below) :
    SelectorPart.ofNode p.qualifier n = p.meaning := by
  rw [SelectorPart.ofNode, text?_of_outline h, text?_of_outline h, text?_of_outline h,
    hasToken_of_outline h, textsOf_of_outline h, WrittenPart.meaning]
  simp [WrittenPart.below]

/-- The part that is next is read with the qualifier before it, and after it there is none. -/
theorem WrittenPart.exists_partsOf_eq {parent : NodeKind} {p : WrittenPart}
    {children : List (Element Token (Node Token))} {os : List Outline}
    (h : Node.outlineBelow Token.outline children = .node .selectorPart [] p.below :: os) :
    ∃ rest, Node.outlineBelow Token.outline rest = os ∧
      Selector.partsOf parent p.qualifier children =
        (Selector.partsOf parent .descendant rest).map (p.meaning :: ·) := by
  obtain ⟨m, rest, rfl, hm, hrest⟩ := outlineBelow_eq_node_cons h
  refine ⟨rest, hrest, ?_⟩
  rw [Selector.partsOf, if_pos (kind_of_outline hm), ofNode_of_outline hm]

/-- The parts of a selector are read one by one, each with the sign before it. -/
theorem WrittenPart.partsOf_of_outline {parent : NodeKind} {parts : List WrittenPart}
    {children : List (Element Token (Node Token))}
    (h : Node.outlineBelow Token.outline children = parts.flatMap outlines) :
    Selector.partsOf parent .descendant children = .ok (parts.map meaning) := by
  induction parts generalizing children with
  | nil =>
    rw [outlineBelow_eq_nil h]
    rfl
  | cons p parts ih =>
    rw [List.flatMap_cons, outlines, List.append_assoc] at h
    cases hsign : p.qualifier.sign? with
    | none =>
      rw [hsign] at h
      obtain ⟨rest, hrest, hread⟩ := exists_partsOf_eq h
      rw [← Qualifier.eq_descendant_of_sign? hsign, hread, ih hrest]
      rfl
    | some sign =>
      rw [hsign] at h
      obtain ⟨t, behind, rfl, hkind, htext, hbehind⟩ := outlineBelow_eq_token_cons h
      obtain ⟨rest, hrest, hread⟩ := exists_partsOf_eq hbehind
      rw [Selector.partsOf, if_pos hkind, htext, Qualifier.ofSign?_of_sign? hsign]
      show Selector.partsOf parent p.qualifier behind = _
      rw [hread, ih hrest]
      rfl

theorem WrittenSelector.ofNode_of_outline {s : WrittenSelector}
    (h : n.outline Token.outline = s.outline) : Selector.ofNode n = .ok s.meaning := by
  rw [Selector.ofNode, WrittenPart.partsOf_of_outline (outlineBelow_children h)]
  rfl

/-- A selector that a node may have is read. -/
theorem inNode?_of_outline {kind : NodeKind} {os : List Outline} {s : Option WrittenSelector}
    (h : n.outline Token.outline = .node kind [] os)
    (hfind : Outline.node? .selector os = s.map WrittenSelector.outline) :
    Selector.inNode? n = .ok (s.map WrittenSelector.meaning) := by
  rw [Selector.inNode?]
  cases s with
  | none => rw [node?_eq_none_of_outline h hfind]; rfl
  | some s =>
    obtain ⟨m, hm, hselector⟩ := exists_node?_of_outline h hfind
    rw [hm]
    show (Selector.ofNode m).map some = _
    rw [s.ofNode_of_outline hselector]
    rfl

/-! ### Rules -/

theorem PropertyName.ofNode_of_outline {p : PropertyName}
    (h : n.outline Token.outline = p.outline) : PropertyName.ofNode n = .ok p := by
  have hname : n.requireText .identifier = .ok p.name := requireText_of_outline h (by simp)
  rw [PropertyName.ofNode, hname, text?_of_outline h]
  simp [Except.map]

theorem PropertyName.inNode_of_outline {kind : NodeKind} {os : List Outline} {p : PropertyName}
    (h : n.outline Token.outline = .node kind [] os)
    (hfind : Outline.node? .propertyName os = some p.outline) :
    PropertyName.inNode n = .ok p := by
  obtain ⟨m, hm, hproperty⟩ := exists_node?_of_outline h hfind
  rw [PropertyName.inNode, Node.requireNode, hm]
  exact p.ofNode_of_outline hproperty

theorem WrittenRule.ofNode_of_outline {r : WrittenRule}
    (h : n.outline Token.outline = r.outline) : Rule.ofNode n = .ok r.meaning := by
  have hproperty : PropertyName.inNode n = .ok r.property :=
    PropertyName.inNode_of_outline h (by simp)
  have hvalue : n.requireText .value = .ok r.value := requireText_of_outline h (by simp)
  have himportant : n.hasToken .important = r.important.isSome :=
    (hasToken_of_outline h).trans (by simp)
  rw [Rule.ofNode, hproperty, hvalue, himportant]
  rfl

theorem WrittenTransition.ofTransition_of_outline {t : WrittenTransition}
    (h : n.outline Token.outline = t.outline) : Rule.ofTransition n = t.meaning := by
  rw [Rule.ofTransition, textsOf_of_outline h, hasToken_of_outline h, meaning]
  simp [PropertyName.transition]

/-! ### Triggers -/

theorem Condition.ofNode_of_outline {c : Condition}
    (h : n.outline Token.outline = c.outline) : Condition.ofNode n = .ok c := by
  have hoperator : n.requireText .operator = .ok c.comparison.sign :=
    requireText_of_outline h (by simp)
  have hproperty : PropertyName.inNode n = .ok c.property :=
    PropertyName.inNode_of_outline h (by simp)
  have hvalue : n.requireText .value = .ok c.value := requireText_of_outline h (by simp)
  rw [Condition.ofNode, hoperator, hproperty, hvalue]
  simp only [bind, Except.bind, Comparison.ofSign?_sign]
  rfl

theorem WrittenAction.ofNode_of_outline {trigger : NodeKind} {a : WrittenAction}
    (h : n.outline Token.outline = a.outline) : TriggerAction.ofNode trigger n = .ok a.meaning := by
  cases a with
  | playStoryboard storyboard selector =>
    have hselector : Selector.inNode? n = .ok (selector.map WrittenSelector.meaning) :=
      inNode?_of_outline h (by cases selector <;> simp)
    have hstoryboard : n.requireText .identifier = .ok storyboard :=
      requireText_of_outline h (by simp)
    rw [TriggerAction.ofNode, hselector, hstoryboard, kind_of_outline h]
    rfl
  | playSound asset =>
    have hselector : Selector.inNode? n = .ok none := inNode?_of_outline (s := none) h (by simp)
    have hasset : n.requireText .value = .ok asset := requireText_of_outline h (by simp)
    rw [TriggerAction.ofNode, hselector, hasset, kind_of_outline h]
    rfl
  | set property selector value =>
    have hselector : Selector.inNode? n = .ok (selector.map WrittenSelector.meaning) :=
      inNode?_of_outline h (by cases selector <;> simp)
    have hproperty : PropertyName.inNode n = .ok property :=
      PropertyName.inNode_of_outline h (by simp)
    have hvalue : n.requireText .value = .ok value := requireText_of_outline h (by simp)
    rw [TriggerAction.ofNode, hselector, hproperty, hvalue, kind_of_outline h]
    rfl

/-- An action is a node of one of the kinds of actions. -/
theorem WrittenAction.isAction_kind {a : WrittenAction}
    (h : n.outline Token.outline = a.outline) : n.kind.isAction = true := by
  cases a <;> rw [kind_of_outline h] <;> rfl

theorem WrittenPropertyTrigger.ofNode_of_outline {t : WrittenPropertyTrigger}
    (h : n.outline Token.outline = t.outline) : PropertyTrigger.ofNode n = .ok t.meaning := by
  have hitems : Reads (TriggerItem.ofNode n.kind)
      (t.conditions.map Condition.outline ++ t.actions.map WrittenAction.outline)
      (t.conditions.map TriggerItem.condition ++
        t.actions.map fun a => TriggerItem.action a.meaning) := by
    refine .append (.map (fun c m hm => ?_) _) (.map (fun a m hm => ?_) _)
    · rw [TriggerItem.ofNode, kind_of_outline hm, c.ofNode_of_outline hm]
      rfl
    · have haction := WrittenAction.isAction_kind hm
      rw [TriggerItem.ofNode]
      split
      · next hcondition =>
        rw [hcondition] at haction
        cases haction
      · rw [if_pos haction, a.ofNode_of_outline hm]
        rfl
  have hnodes := hitems n.nodes ((nodes_of_outline h).trans (by simp))
  have himportant : n.hasToken .important = t.important.isSome :=
    (hasToken_of_outline h).trans (by simp)
  rw [PropertyTrigger.ofNode, hnodes, himportant, meaning]
  simp [bind, Except.bind, pure, Except.pure, List.filterMap_map, Function.comp_def,
    TriggerItem.condition?, TriggerItem.action?]

theorem WrittenEventTrigger.ofNode_of_outline {t : WrittenEventTrigger}
    (h : n.outline Token.outline = t.outline) : EventTrigger.ofNode n = .ok t.meaning := by
  have hactions : Reads (EventTrigger.actionOf n.kind) (t.actions.map WrittenAction.outline)
      (t.actions.map WrittenAction.meaning) := by
    refine .map (fun a m hm => ?_) _
    rw [EventTrigger.actionOf, if_pos (WrittenAction.isAction_kind hm), a.ofNode_of_outline hm]
  have hnodes := hactions n.nodes ((nodes_of_outline h).trans (by simp))
  have hevent : n.requireText .identifier = .ok t.event := requireText_of_outline h (by simp)
  have harguments : n.textsOf .argument = t.arguments := (textsOf_of_outline h).trans (by simp)
  have himportant : n.hasToken .important = t.important.isSome :=
    (hasToken_of_outline h).trans (by simp)
  rw [EventTrigger.ofNode, hevent, hnodes, harguments, himportant, meaning]
  simp [bind, Except.bind, pure, Except.pure, EventTrigger.handledArgument,
    EventTrigger.setHandledArgument]

/-! ### Rule sets -/

/-- What is read from an item of a rule set: no selector, and its rule or its trigger. -/
def WrittenRuleSetItem.item : WrittenRuleSetItem → RuleSetItem
  | .rule r => .rule r.meaning
  | .transition t => .rule t.meaning
  | .propertyTrigger t => .trigger (.property t.meaning)
  | .eventTrigger t => .trigger (.event t.meaning)

theorem WrittenRuleSetItem.ofNode_of_outline {parent : NodeKind} {i : WrittenRuleSetItem}
    (h : n.outline Token.outline = i.outline) : RuleSetItem.ofNode parent n = .ok i.item := by
  cases i with
  | rule r => rw [RuleSetItem.ofNode, kind_of_outline h, r.ofNode_of_outline h]; rfl
  | transition t => rw [RuleSetItem.ofNode, kind_of_outline h, t.ofTransition_of_outline h]; rfl
  | propertyTrigger t => rw [RuleSetItem.ofNode, kind_of_outline h, t.ofNode_of_outline h]; rfl
  | eventTrigger t => rw [RuleSetItem.ofNode, kind_of_outline h, t.ofNode_of_outline h]; rfl

theorem WrittenRuleSet.ofNode_of_outline {s : WrittenRuleSet}
    (h : n.outline Token.outline = s.outline) : RuleSet.ofNode n = .ok s.meaning := by
  have hitems : Reads (RuleSetItem.ofNode n.kind)
      (s.selectors.map WrittenSelector.outline ++ s.items.map WrittenRuleSetItem.outline)
      (s.selectors.map (fun s => RuleSetItem.selector s.meaning) ++
        s.items.map WrittenRuleSetItem.item) := by
    refine .append (.map (fun s m hm => ?_) _) (.map (fun i m hm => i.ofNode_of_outline hm) _)
    rw [RuleSetItem.ofNode, kind_of_outline hm, s.ofNode_of_outline hm]
    rfl
  have hnodes := hitems n.nodes ((nodes_of_outline h).trans (by simp))
  have hselector : RuleSetItem.selector? ∘ WrittenRuleSetItem.item = fun _ => none := by
    funext i
    cases i <;> rfl
  have hrule : RuleSetItem.rule? ∘ WrittenRuleSetItem.item = WrittenRuleSetItem.rule? := by
    funext i
    cases i <;> rfl
  have htrigger : RuleSetItem.trigger? ∘ WrittenRuleSetItem.item = WrittenRuleSetItem.trigger? := by
    funext i
    cases i <;> rfl
  rw [RuleSet.ofNode, hnodes]
  show Except.ok (RuleSet.ofItems _) = _
  simp only [RuleSet.ofItems, meaning, List.filterMap_append, List.filterMap_map, hselector, hrule,
    htrigger]
  simp [Function.comp_def, RuleSetItem.selector?, RuleSetItem.rule?, RuleSetItem.trigger?]

/-! ### Storyboards -/

theorem WrittenKeyframe.ofNode_of_outline {k : WrittenKeyframe}
    (h : n.outline Token.outline = k.outline) : Keyframe.ofNode n = .ok k.meaning := by
  have htime : n.requireText .time = .ok k.spelling := requireText_of_outline h (by simp)
  have hvalue : n.requireText .value = .ok k.value := requireText_of_outline h (by simp)
  have heasing : n.text? .easing = k.easing := (text?_of_outline h).trans (by simp)
  rw [Keyframe.ofNode, htime, hvalue, heasing]
  simp only [bind, Except.bind, k.time_eq]
  rfl

theorem WrittenNavigation.ofNode_of_outline {w : WrittenNavigation}
    (h : n.outline Token.outline = w.outline) : Navigation.ofNode n = .ok w.meaning := by
  have hproperty : n.requireText .identifier = .ok w.property :=
    requireText_of_outline h (by simp)
  have htargetType : n.requireText .typeName = .ok w.targetType :=
    requireText_of_outline h (by simp)
  rw [Navigation.ofNode, hproperty, htargetType]
  rfl

theorem WrittenAnimation.ofNode_of_outline {a : WrittenAnimation}
    (h : n.outline Token.outline = a.outline) : Animation.ofNode n = .ok a.meaning := by
  have hproperty : PropertyName.inNode n = .ok a.property :=
    PropertyName.inNode_of_outline h (by simp)
  have hitems : Reads (AnimationItem.ofNode n.kind)
      ([a.property].map PropertyName.outline ++
        (a.navigation.toList.map WrittenNavigation.outline ++
          a.keyframes.map WrittenKeyframe.outline))
      ([a.property].map (fun _ => AnimationItem.property) ++
        (a.navigation.toList.map (fun w => AnimationItem.navigation w.meaning) ++
          a.keyframes.map fun k => AnimationItem.keyframe k.meaning)) := by
    refine .append (.map (fun p m hm => ?_) _)
      (.append (.map (fun w m hm => ?_) _) (.map (fun k m hm => ?_) _))
    · rw [AnimationItem.ofNode, kind_of_outline hm]
    · rw [AnimationItem.ofNode, kind_of_outline hm, w.ofNode_of_outline hm]
      rfl
    · rw [AnimationItem.ofNode, kind_of_outline hm, k.ofNode_of_outline hm]
      rfl
  have hnodes := hitems n.nodes ((nodes_of_outline h).trans (by simp))
  rw [Animation.ofNode, hproperty, hnodes, meaning]
  cases a.navigation <;>
    simp [bind, Except.bind, pure, Except.pure, List.filterMap_cons, List.filterMap_map,
      Function.comp_def, AnimationItem.navigation?, AnimationItem.keyframe?,
      -List.getLast?_filterMap]

theorem WrittenTarget.ofNode_of_outline {options : CompilerOptions} {t : WrittenTarget}
    (h : n.outline Token.outline = t.outline) :
    StoryboardTarget.ofNode options n = .ok (t.meaning options) := by
  have hitems : Reads (TargetItem.ofNode n.kind)
      (t.selector.toList.map WrittenSelector.outline ++
        t.animations.map WrittenAnimation.outline)
      (t.selector.toList.map (fun s => TargetItem.selector s.meaning) ++
        t.animations.map fun a => TargetItem.animation a.meaning) := by
    refine .append (.map (fun s m hm => ?_) _) (.map (fun a m hm => ?_) _)
    · rw [TargetItem.ofNode, kind_of_outline hm, s.ofNode_of_outline hm]
      rfl
    · rw [TargetItem.ofNode, kind_of_outline hm, a.ofNode_of_outline hm]
      rfl
  have hnodes := hitems n.nodes ((nodes_of_outline h).trans (by simp))
  have htypes : n.textsOf .typeName = t.types := (textsOf_of_outline h).trans (by simp)
  rw [StoryboardTarget.ofNode, hnodes, StoryboardTarget.filterOf, htypes, meaning]
  cases t.selector <;>
    simp [bind, Except.bind, pure, Except.pure, List.filterMap_cons, List.filterMap_map,
      Function.comp_def, TargetItem.selector?, TargetItem.animation?, -List.getLast?_filterMap]

theorem WrittenStoryboard.ofNode_of_outline {options : CompilerOptions} {s : WrittenStoryboard}
    (h : n.outline Token.outline = s.outline) :
    Storyboard.ofNode options n = .ok (s.meaning options) := by
  have hname : n.requireText .identifier = .ok s.name := requireText_of_outline h (by simp)
  have hkeyword : n.text? .loopBehavior = s.loopBehavior.map LoopBehavior.keyword :=
    (text?_of_outline h).trans (by simp)
  have hloop : LoopBehavior.inNode n = .ok (s.loopBehavior.getD .once) := by
    rw [LoopBehavior.inNode, hkeyword]
    cases s.loopBehavior with
    | none => rfl
    | some b => simp only [Option.map_some, LoopBehavior.ofKeyword?_keyword, Option.getD_some]
  have htargets : Reads (Storyboard.targetOf options n.kind) (s.targets.map WrittenTarget.outline)
      (s.targets.map (WrittenTarget.meaning options)) := by
    refine .map (fun t m hm => ?_) _
    rw [Storyboard.targetOf, if_pos (kind_of_outline hm), t.ofNode_of_outline hm]
  have hnodes := htargets n.nodes ((nodes_of_outline h).trans (by simp))
  rw [Storyboard.ofNode, hname, hloop, hnodes]
  rfl

/-! ### Stylesheets -/

/-- What is read from an item at the top of a stylesheet. -/
def WrittenItem.item (options : CompilerOptions) : WrittenItem → DocumentItem
  | .ruleSet s => .ruleSet s.meaning
  | .storyboard s => .storyboard (s.meaning options)

theorem WrittenItem.ofNode_of_outline {options : CompilerOptions} {parent : NodeKind}
    {i : WrittenItem} (h : n.outline Token.outline = i.outline) :
    DocumentItem.ofNode options parent n = .ok (i.item options) := by
  cases i with
  | ruleSet s => rw [DocumentItem.ofNode, kind_of_outline h, s.ofNode_of_outline h]; rfl
  | storyboard s => rw [DocumentItem.ofNode, kind_of_outline h, s.ofNode_of_outline h]; rfl

theorem WrittenDocument.ofNode_of_outline {options : CompilerOptions} {d : WrittenDocument}
    (h : n.outline Token.outline = .node .document [] d.outlines) :
    Document.ofNode options n = .ok (d.meaning options) := by
  have hitems : Reads (DocumentItem.ofNode options n.kind) (d.items.map WrittenItem.outline)
      (d.items.map (WrittenItem.item options)) := .map (fun i m hm => i.ofNode_of_outline hm) _
  have hnodes := hitems n.nodes ((nodes_of_outline h).trans (by simp [WrittenDocument.outlines]))
  have hruleSet : DocumentItem.ruleSet? ∘ WrittenItem.item options = WrittenItem.ruleSet? := by
    funext i
    cases i <;> rfl
  have hstoryboard : DocumentItem.storyboard? ∘ WrittenItem.item options =
      WrittenItem.storyboard? options := by
    funext i
    cases i <;> rfl
  rw [Document.ofNode, hnodes]
  show Except.ok (Document.ofItems _) = _
  simp only [Document.ofItems, meaning, List.filterMap_map, hruleSet, hstoryboard]

/-- **A written stylesheet is compiled to its meaning.**  When a builder is told the outlines of
what stands at the top and the source stays within the limit, the finished tree is compiled to the
document that is meant, whatever the options. -/
theorem compile_calls (options : CompilerOptions) (d : WrittenDocument)
    (hsize : (Builder.empty.run (Outline.callsAll d.outlines)).finish.source.text.utf8ByteSize <
      UInt32.size) :
    compile options (Builder.empty.run (Outline.callsAll d.outlines)).finish =
      .ok (d.meaning options) := by
  have houtline := outline_finish_run (Outline.tells_callsAll d.outlines) hsize
  have hnone : (Builder.empty.run (Outline.callsAll d.outlines)).finish.diagnostics = [] := by
    rw [Tree.diagnostics, ← Node.allDiagnostics_outline, houtline, Outline.allDiagnostics,
      Outline.diagnosticsBelow_eq_flatMap, d.allDiagnostics_outlines]
    rfl
  refine compile_eq_ok_iff.2 ⟨?_, d.ofNode_of_outline houtline⟩
  rw [hnone]
  rfl

/-- A rule set behind a storyboard: the star and the index are lost, marks become flags, and the
target is for the base type. -/
theorem compile_calls_ruleSet_storyboard :
    let width : PropertyName := { owner := some "Grid", name := "width" }
    let row : WrittenPart :=
      { qualifier := .visualChild, type := .named "Row", exact := some "^", classes := ["a", "b"] }
    let rows : WrittenSelector := ⟨[{ type := .star "*" }, row]⟩
    let half : WrittenKeyframe :=
      { spelling := "0.5", time := ⟨0x3F000000⟩, time_eq := (by decide +kernel), value := "1" }
    let fading : WrittenAnimation :=
      { property := { name := "brush" }, navigation := some ⟨"opacity", "Brush", some "2"⟩,
        keyframes := [half] }
    let written : WrittenDocument :=
      ⟨[.storyboard { name := "fade", targets := [{ animations := [fading] }] },
        .ruleSet ⟨[rows], [.rule ⟨width, "1", some "!important"⟩,
          .eventTrigger ⟨"click", ["handled"], [.playStoryboard "fade" (some rows)], none⟩]⟩]⟩
    let selector : Selector := ⟨[{}, ⟨.visualChild, some "Row", true, none, none, ["a", "b"]⟩]⟩
    let rule : Rule := { property := width, value := "1", important := true }
    let trigger : EventTrigger :=
      ⟨"click", true, false, false, [.playStoryboard "fade" (some selector)]⟩
    let animation : Animation :=
      ⟨{ name := "brush" }, some ⟨"opacity", "Brush"⟩, [{ time := ⟨0x3F000000⟩, value := "1" }]⟩
    let tree := (Builder.empty.run (Outline.callsAll written.outlines)).finish
    tree.source.text.utf8ByteSize < UInt32.size ∧
      compile {} tree = .ok ⟨[⟨[selector], [rule], [.event trigger]⟩],
        [⟨"fade", .once, [⟨none, ["UIElement"], [animation]⟩]⟩]⟩ := by
  intro width row rows half fading written selector rule trigger animation tree
  have hsize : tree.source.text.utf8ByteSize < UInt32.size := by decide +kernel
  exact ⟨hsize, compile_calls {} written hsize⟩

end StyledText.Stylesheet
