/-!
# Kinds of nodes and tokens

A stylesheet is parsed to a tree whose inner nodes are of eighteen kinds and whose leaves are tokens
of sixteen kinds.  The text of a token is without sigils: the class token of `.primary` holds
`primary`.
-/

namespace StyledText.Syntax

/-- What a node stands for. -/
inductive NodeKind where
  | document
  | ruleSet
  | selector
  | selectorPart
  | propertyName
  | rule
  | transition
  | propertyTrigger
  | condition
  | eventTrigger
  | playStoryboardAction
  | playSoundAction
  | setAction
  | storyboard
  | storyboardTarget
  | animation
  | navigation
  | keyframe
deriving DecidableEq, Repr

namespace NodeKind

def all : List NodeKind :=
  [.document, .ruleSet, .selector, .selectorPart, .propertyName, .rule, .transition,
    .propertyTrigger, .condition, .eventTrigger, .playStoryboardAction, .playSoundAction,
    .setAction, .storyboard, .storyboardTarget, .animation, .navigation, .keyframe]

def name : NodeKind → String
  | .document => "Document"
  | .ruleSet => "RuleSet"
  | .selector => "Selector"
  | .selectorPart => "SelectorPart"
  | .propertyName => "PropertyName"
  | .rule => "Rule"
  | .transition => "Transition"
  | .propertyTrigger => "PropertyTrigger"
  | .condition => "Condition"
  | .eventTrigger => "EventTrigger"
  | .playStoryboardAction => "PlayStoryboardAction"
  | .playSoundAction => "PlaySoundAction"
  | .setAction => "SetAction"
  | .storyboard => "Storyboard"
  | .storyboardTarget => "StoryboardTarget"
  | .animation => "Animation"
  | .navigation => "Navigation"
  | .keyframe => "Keyframe"

def ofName? (s : String) : Option NodeKind := all.find? fun kind => kind.name == s

/-- Whether nodes of the kind are actions of a trigger. -/
def isAction : NodeKind → Bool
  | .playStoryboardAction | .playSoundAction | .setAction => true
  | _ => false

end NodeKind

/-- What a token stands for. -/
inductive TokenKind where
  | identifier
  | typeName
  | star
  | exact
  | id
  | pseudoClass
  | className
  | childQualifier
  | value
  | important
  | operator
  | argument
  | loopBehavior
  | easing
  | time
  | index
deriving DecidableEq, Repr

namespace TokenKind

def all : List TokenKind :=
  [.identifier, .typeName, .star, .exact, .id, .pseudoClass, .className, .childQualifier, .value,
    .important, .operator, .argument, .loopBehavior, .easing, .time, .index]

def name : TokenKind → String
  | .identifier => "Identifier"
  | .typeName => "TypeName"
  | .star => "Star"
  | .exact => "Exact"
  | .id => "Id"
  | .pseudoClass => "PseudoClass"
  | .className => "Class"
  | .childQualifier => "ChildQualifier"
  | .value => "Value"
  | .important => "Important"
  | .operator => "Operator"
  | .argument => "Argument"
  | .loopBehavior => "LoopBehavior"
  | .easing => "Easing"
  | .time => "Time"
  | .index => "Index"

def ofName? (s : String) : Option TokenKind := all.find? fun kind => kind.name == s

end TokenKind

end StyledText.Syntax
