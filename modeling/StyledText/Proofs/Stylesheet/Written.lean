import StyledText.Proofs.Syntax.Outline
import StyledText.Stylesheet.Compile

/-!
# Written stylesheets

A stylesheet as it is written has two sides.  Its **outline** is the tree that a parser reports for
it, with the tokens and nodes of each node in the order of the grammar; its **meaning** is the part
of a document that it describes.  The two share the texts, and each has something that the other has
not:

* signs that are only looked for, such as the star of a part or the mark of an important rule, have
  a spelling in the outline and are at most a flag in the meaning, and the index of a navigation has
  no meaning at all;
* an outline has nothing for a descendant, for the loop behavior of a storyboard that names none, or
  for the types of a target that names none.
-/

namespace StyledText.Stylesheet

open Number Syntax

/-! ### Selectors -/

/-- The sign of a qualifier; a descendant has none. -/
def Qualifier.sign? : Qualifier → Option String
  | .descendant => none
  | .visualChild => some ">"
  | .templatedChild => some ">>"
  | .logicalChild => some "/"

theorem Qualifier.eq_descendant_of_sign? {q : Qualifier} (h : q.sign? = none) :
    q = .descendant := by
  cases q <;> first | rfl | cases h

/-- A sign is read as the qualifier that it was written for. -/
theorem Qualifier.ofSign?_of_sign? {q : Qualifier} {sign : String} (h : q.sign? = some sign) :
    ofSign? sign = some q := by
  cases q <;> cases h <;> rfl

/-- What a part of a selector has for the type of the element. -/
inductive WrittenType where
  | absent
  | star (sign : String)
  | named (name : String)
deriving DecidableEq, Repr

namespace WrittenType

def outlines : WrittenType → List Outline
  | .absent => []
  | .star sign => [.token .star sign]
  | .named name => [.token .typeName name]

def name? : WrittenType → Option String
  | .absent | .star _ => none
  | .named name => some name

/-- A star is no token that is read. -/
@[simp] theorem textsOf_outlines {kind : TokenKind} (h : kind ≠ .star) (t : WrittenType) :
    Outline.textsOf kind t.outlines = if .typeName = kind then t.name?.toList else [] := by
  cases t <;> simp [outlines, name?, h.symm]

end WrittenType

/-- A part of a selector as it is written. -/
structure WrittenPart where
  qualifier : Qualifier := .descendant
  type : WrittenType := .absent
  /-- The sign that leaves out subtypes. -/
  exact : Option String := none
  id : Option String := none
  pseudoClass : Option String := none
  classes : List String := []
deriving DecidableEq, Repr

namespace WrittenPart

def below (p : WrittenPart) : List Outline :=
  Outline.tokens .exact p.exact.toList ++ p.type.outlines ++ Outline.tokens .id p.id.toList ++
    Outline.tokens .pseudoClass p.pseudoClass.toList ++ Outline.tokens .className p.classes

/-- The sign of the qualifier, if it has one, and the part. -/
def outlines (p : WrittenPart) : List Outline :=
  Outline.tokens .childQualifier p.qualifier.sign?.toList ++ [.node .selectorPart [] p.below]

def meaning (p : WrittenPart) : SelectorPart where
  qualifier := p.qualifier
  element := p.type.name?
  exact := p.exact.isSome
  id := p.id
  pseudoClass := p.pseudoClass
  classes := p.classes

end WrittenPart

/-- A selector as it is written. -/
structure WrittenSelector where
  parts : List WrittenPart
deriving DecidableEq, Repr

namespace WrittenSelector

def outline (s : WrittenSelector) : Outline :=
  .node .selector [] (s.parts.flatMap WrittenPart.outlines)

-- by cases, though it holds by definition: in side conditions `simp` proves nothing by definition
@[simp] theorem kind?_outline (s : WrittenSelector) : s.outline.kind? = some .selector := by
  cases s
  rfl

def meaning (s : WrittenSelector) : Selector := ⟨s.parts.map WrittenPart.meaning⟩

end WrittenSelector

/-! ### Rules -/

def PropertyName.outline (p : PropertyName) : Outline :=
  .node .propertyName [] (Outline.tokens .typeName p.owner.toList ++ [.token .identifier p.name])

@[simp] theorem PropertyName.kind?_outline (p : PropertyName) :
    p.outline.kind? = some .propertyName := by
  cases p
  rfl

/-- A rule as it is written. -/
structure WrittenRule where
  property : PropertyName
  value : String
  /-- The mark of an important rule. -/
  important : Option String := none
deriving DecidableEq, Repr

namespace WrittenRule

def outline (r : WrittenRule) : Outline :=
  .node .rule [] (r.property.outline :: .token .value r.value ::
    Outline.tokens .important r.important.toList)

def meaning (r : WrittenRule) : Rule where
  property := r.property
  value := r.value
  important := r.important.isSome

end WrittenRule

/-- A transition as it is written. -/
structure WrittenTransition where
  arguments : List String
  /-- The mark of an important transition. -/
  important : Option String := none
deriving DecidableEq, Repr

namespace WrittenTransition

def outline (t : WrittenTransition) : Outline :=
  .node .transition [] (Outline.tokens .argument t.arguments ++
    Outline.tokens .important t.important.toList)

def meaning (t : WrittenTransition) : Rule where
  property := { name := "transition" }
  important := t.important.isSome
  arguments := t.arguments

end WrittenTransition

/-! ### Triggers -/

theorem Comparison.ofSign?_sign (c : Comparison) : ofSign? c.sign = some c := by
  cases c <;> rfl

def Condition.outline (c : Condition) : Outline :=
  .node .condition []
    [c.property.outline, .token .operator c.comparison.sign, .token .value c.value]

@[simp] theorem Condition.kind?_outline (c : Condition) : c.outline.kind? = some .condition := by
  cases c
  rfl

/-- An action as it is written. -/
inductive WrittenAction where
  | playStoryboard (storyboard : String) (selector : Option WrittenSelector)
  | playSound (asset : String)
  | set (property : PropertyName) (selector : Option WrittenSelector) (value : String)
deriving DecidableEq, Repr

namespace WrittenAction

def outline : WrittenAction → Outline
  | .playStoryboard storyboard selector =>
    .node .playStoryboardAction []
      (.token .identifier storyboard :: selector.toList.map WrittenSelector.outline)
  | .playSound asset => .node .playSoundAction [] [.token .value asset]
  | .set property selector value =>
    .node .setAction [] (property.outline :: (selector.toList.map WrittenSelector.outline ++
      [.token .value value]))

@[simp] theorem isSome_kind?_outline (a : WrittenAction) : a.outline.kind?.isSome = true := by
  cases a <;> rfl

def meaning : WrittenAction → TriggerAction
  | .playStoryboard storyboard selector =>
    .playStoryboard storyboard (selector.map WrittenSelector.meaning)
  | .playSound asset => .playSound asset
  | .set property selector value => .set property (selector.map WrittenSelector.meaning) value

end WrittenAction

/-- A property trigger as it is written. -/
structure WrittenPropertyTrigger where
  conditions : List Condition
  actions : List WrittenAction
  /-- The mark of an important trigger. -/
  important : Option String := none
deriving DecidableEq, Repr

namespace WrittenPropertyTrigger

def outline (t : WrittenPropertyTrigger) : Outline :=
  .node .propertyTrigger [] (t.conditions.map Condition.outline ++
    t.actions.map WrittenAction.outline ++ Outline.tokens .important t.important.toList)

def meaning (t : WrittenPropertyTrigger) : PropertyTrigger where
  important := t.important.isSome
  conditions := t.conditions
  actions := t.actions.map WrittenAction.meaning

end WrittenPropertyTrigger

/-- An event trigger as it is written. -/
structure WrittenEventTrigger where
  event : String
  arguments : List String
  actions : List WrittenAction
  /-- The mark of an important trigger. -/
  important : Option String := none
deriving DecidableEq, Repr

namespace WrittenEventTrigger

def outline (t : WrittenEventTrigger) : Outline :=
  .node .eventTrigger [] (.token .identifier t.event :: Outline.tokens .argument t.arguments ++
    t.actions.map WrittenAction.outline ++ Outline.tokens .important t.important.toList)

def meaning (t : WrittenEventTrigger) : EventTrigger where
  event := t.event
  handled := "handled" ∈ t.arguments
  setHandled := "set-handled" ∈ t.arguments
  important := t.important.isSome
  actions := t.actions.map WrittenAction.meaning

end WrittenEventTrigger

/-! ### Rule sets -/

/-- What stands in a rule set behind the selectors. -/
inductive WrittenRuleSetItem where
  | rule (rule : WrittenRule)
  | transition (transition : WrittenTransition)
  | propertyTrigger (trigger : WrittenPropertyTrigger)
  | eventTrigger (trigger : WrittenEventTrigger)
deriving DecidableEq, Repr

namespace WrittenRuleSetItem

def outline : WrittenRuleSetItem → Outline
  | .rule r => r.outline
  | .transition t => t.outline
  | .propertyTrigger t => t.outline
  | .eventTrigger t => t.outline

@[simp] theorem isSome_kind?_outline (i : WrittenRuleSetItem) : i.outline.kind?.isSome = true := by
  cases i <;> rfl

def rule? : WrittenRuleSetItem → Option Rule
  | .rule r => some r.meaning
  | .transition t => some t.meaning
  | .propertyTrigger _ | .eventTrigger _ => none

def trigger? : WrittenRuleSetItem → Option Trigger
  | .rule _ | .transition _ => none
  | .propertyTrigger t => some (.property t.meaning)
  | .eventTrigger t => some (.event t.meaning)

end WrittenRuleSetItem

/-- A rule set as it is written. -/
structure WrittenRuleSet where
  selectors : List WrittenSelector
  items : List WrittenRuleSetItem
deriving DecidableEq, Repr

namespace WrittenRuleSet

def outline (s : WrittenRuleSet) : Outline :=
  .node .ruleSet [] (s.selectors.map WrittenSelector.outline ++
    s.items.map WrittenRuleSetItem.outline)

def meaning (s : WrittenRuleSet) : RuleSet where
  selectors := s.selectors.map WrittenSelector.meaning
  rules := s.items.filterMap WrittenRuleSetItem.rule?
  triggers := s.items.filterMap WrittenRuleSetItem.trigger?

end WrittenRuleSet

/-! ### Storyboards -/

theorem LoopBehavior.ofKeyword?_keyword (b : LoopBehavior) : ofKeyword? b.keyword = some b := by
  cases b <;> rfl

/-- A keyframe as it is written, with a time that is a number. -/
structure WrittenKeyframe where
  spelling : String
  time : Binary32
  time_eq : Binary32.ofText? spelling = some time
  value : String
  easing : Option String := none
deriving DecidableEq, Repr

namespace WrittenKeyframe

def outline (k : WrittenKeyframe) : Outline :=
  .node .keyframe [] (.token .time k.spelling :: .token .value k.value ::
    Outline.tokens .easing k.easing.toList)

@[simp] theorem kind?_outline (k : WrittenKeyframe) : k.outline.kind? = some .keyframe := by
  cases k
  rfl

def meaning (k : WrittenKeyframe) : Keyframe where
  time := k.time
  value := k.value
  easing := k.easing

end WrittenKeyframe

/-- A navigation as it is written. -/
structure WrittenNavigation where
  property : String
  targetType : String
  index : Option String := none
deriving DecidableEq, Repr

namespace WrittenNavigation

def outline (n : WrittenNavigation) : Outline :=
  .node .navigation [] (.token .identifier n.property :: .token .typeName n.targetType ::
    Outline.tokens .index n.index.toList)

@[simp] theorem kind?_outline (n : WrittenNavigation) : n.outline.kind? = some .navigation := by
  cases n
  rfl

def meaning (n : WrittenNavigation) : Navigation where
  property := n.property
  targetType := n.targetType

end WrittenNavigation

/-- An animation as it is written. -/
structure WrittenAnimation where
  property : PropertyName
  navigation : Option WrittenNavigation := none
  keyframes : List WrittenKeyframe
deriving DecidableEq, Repr

namespace WrittenAnimation

def outline (a : WrittenAnimation) : Outline :=
  .node .animation [] (a.property.outline ::
    (a.navigation.toList.map WrittenNavigation.outline ++
      a.keyframes.map WrittenKeyframe.outline))

@[simp] theorem kind?_outline (a : WrittenAnimation) : a.outline.kind? = some .animation := by
  cases a
  rfl

def meaning (a : WrittenAnimation) : Animation where
  property := a.property
  navigation := a.navigation.map WrittenNavigation.meaning
  keyframes := a.keyframes.map WrittenKeyframe.meaning

end WrittenAnimation

/-- The target of a storyboard as it is written. -/
structure WrittenTarget where
  selector : Option WrittenSelector := none
  types : List String := []
  animations : List WrittenAnimation
deriving DecidableEq, Repr

namespace WrittenTarget

def outline (t : WrittenTarget) : Outline :=
  .node .storyboardTarget [] (t.selector.toList.map WrittenSelector.outline ++
    Outline.tokens .typeName t.types ++ t.animations.map WrittenAnimation.outline)

@[simp] theorem kind?_outline (t : WrittenTarget) : t.outline.kind? = some .storyboardTarget := by
  cases t
  rfl

/-- The target for the types named, or for the base type of the options when there are none. -/
def meaning (options : CompilerOptions) (t : WrittenTarget) : StoryboardTarget where
  selector := t.selector.map WrittenSelector.meaning
  filter := if t.types = [] then [options.baseElementType] else t.types
  animations := t.animations.map WrittenAnimation.meaning

end WrittenTarget

/-- A storyboard as it is written. -/
structure WrittenStoryboard where
  name : String
  loopBehavior : Option LoopBehavior := none
  targets : List WrittenTarget
deriving DecidableEq, Repr

namespace WrittenStoryboard

def outline (s : WrittenStoryboard) : Outline :=
  .node .storyboard [] (.token .identifier s.name ::
    Outline.tokens .loopBehavior (s.loopBehavior.map LoopBehavior.keyword).toList ++
      s.targets.map WrittenTarget.outline)

def meaning (options : CompilerOptions) (s : WrittenStoryboard) : Storyboard where
  name := s.name
  loopBehavior := s.loopBehavior.getD .once
  targets := s.targets.map (WrittenTarget.meaning options)

end WrittenStoryboard

/-! ### Stylesheets -/

/-- What stands at the top of a stylesheet. -/
inductive WrittenItem where
  | ruleSet (ruleSet : WrittenRuleSet)
  | storyboard (storyboard : WrittenStoryboard)
deriving DecidableEq, Repr

namespace WrittenItem

def outline : WrittenItem → Outline
  | .ruleSet s => s.outline
  | .storyboard s => s.outline

@[simp] theorem isSome_kind?_outline (i : WrittenItem) : i.outline.kind?.isSome = true := by
  cases i <;> rfl

def ruleSet? : WrittenItem → Option RuleSet
  | .ruleSet s => some s.meaning
  | .storyboard _ => none

def storyboard? (options : CompilerOptions) : WrittenItem → Option Storyboard
  | .ruleSet _ => none
  | .storyboard s => some (s.meaning options)

end WrittenItem

/-- A stylesheet as it is written. -/
structure WrittenDocument where
  items : List WrittenItem
deriving DecidableEq, Repr

namespace WrittenDocument

def outlines (d : WrittenDocument) : List Outline := d.items.map WrittenItem.outline

def meaning (options : CompilerOptions) (d : WrittenDocument) : Document where
  ruleSets := d.items.filterMap WrittenItem.ruleSet?
  storyboards := d.items.filterMap (WrittenItem.storyboard? options)

end WrittenDocument

/-! ### Diagnostics

No diagnostics are written. -/

section Diagnostics

open Outline (allDiagnostics)

@[simp] theorem WrittenSelector.allDiagnostics_outline (s : WrittenSelector) :
    s.outline.allDiagnostics = [] := by
  have htype (t : WrittenType) : t.outlines.flatMap allDiagnostics = [] := by
    cases t <;> simp [WrittenType.outlines]
  have hpart (p : WrittenPart) : p.outlines.flatMap allDiagnostics = [] := by
    simp [WrittenPart.outlines, WrittenPart.below, htype]
  simp [outline, List.flatMap_assoc, hpart]

@[simp] theorem PropertyName.allDiagnostics_outline (p : PropertyName) :
    p.outline.allDiagnostics = [] := by
  simp [outline]

@[simp] theorem Condition.allDiagnostics_outline (c : Condition) :
    c.outline.allDiagnostics = [] := by
  simp [outline]

@[simp] theorem WrittenAction.allDiagnostics_outline (a : WrittenAction) :
    a.outline.allDiagnostics = [] := by
  cases a <;> simp [outline]

@[simp] theorem WrittenRuleSetItem.allDiagnostics_outline (i : WrittenRuleSetItem) :
    i.outline.allDiagnostics = [] := by
  cases i <;> simp [outline, WrittenRule.outline, WrittenTransition.outline,
    WrittenPropertyTrigger.outline, WrittenEventTrigger.outline]

@[simp] theorem WrittenAnimation.allDiagnostics_outline (a : WrittenAnimation) :
    a.outline.allDiagnostics = [] := by
  simp [outline, WrittenNavigation.outline, WrittenKeyframe.outline]

theorem WrittenDocument.allDiagnostics_outlines (d : WrittenDocument) :
    d.outlines.flatMap allDiagnostics = [] := by
  rw [outlines, List.flatMap_map, List.flatMap_eq_nil_iff]
  rintro (s | s) -
  · simp [WrittenItem.outline, WrittenRuleSet.outline]
  · simp [WrittenItem.outline, WrittenStoryboard.outline, WrittenTarget.outline]

end Diagnostics

end StyledText.Stylesheet
