import StyledText.Stylesheet.Document
import StyledText.Stylesheet.Reading.Selector

/-!
# Reading rule sets

The nodes inside a rule set are selectors, rules, transitions and triggers in any order, those
inside a property trigger conditions and actions in any order.  Each child is read to an item, the
first fault ends the reading, and the items are then sorted by what they are.
-/

namespace StyledText.Stylesheet

open Syntax

/-! ### Rules -/

/-- The property that a node names. -/
def PropertyName.ofNode (n : Node Token) : Except Fault PropertyName :=
  (n.requireText .identifier).map fun name => { owner := n.text? .typeName, name }

/-- The property that the property name in a node names. -/
def PropertyName.inNode (n : Node Token) : Except Fault PropertyName :=
  (n.requireNode .propertyName).bind PropertyName.ofNode

def Rule.ofNode (n : Node Token) : Except Fault Rule := do
  let property ← PropertyName.inNode n
  let value ← n.requireText .value
  return { property, value, important := n.hasToken .important }

/-- The rule of a transition. -/
def Rule.ofTransition (n : Node Token) : Rule where
  property := .transition
  important := n.hasToken .important
  arguments := n.textsOf .argument

/-! ### Triggers -/

def Condition.ofNode (n : Node Token) : Except Fault Condition := do
  let operator ← n.requireText .operator
  match Comparison.ofSign? operator with
  | none => .error (.unknownOperator operator)
  | some comparison =>
    let property ← PropertyName.inNode n
    let value ← n.requireText .value
    return { property, comparison, value }

/-- The selector in a node, if it has one. -/
def Selector.inNode? (n : Node Token) : Except Fault (Option Selector) :=
  match n.node? .selector with
  | none => .ok none
  | some selector => (Selector.ofNode selector).map some

/-- The action that a node inside a trigger describes.  Its selector is read before all else, also
where it plays no part. -/
def TriggerAction.ofNode (trigger : NodeKind) (n : Node Token) : Except Fault TriggerAction := do
  let selector ← Selector.inNode? n
  match n.kind with
  | .playStoryboardAction => return .playStoryboard (← n.requireText .identifier) selector
  | .playSoundAction => return .playSound (← n.requireText .value)
  | .setAction =>
    let property ← PropertyName.inNode n
    let value ← n.requireText .value
    return .set property selector value
  | found => .error (.unexpectedNode trigger found)

/-- What stands inside a property trigger. -/
inductive TriggerItem where
  | condition (condition : Condition)
  | action (action : TriggerAction)
deriving DecidableEq, Repr

namespace TriggerItem

def ofNode (trigger : NodeKind) (n : Node Token) : Except Fault TriggerItem :=
  match n.kind with
  | .condition => (Condition.ofNode n).map .condition
  | found =>
    if found.isAction then (TriggerAction.ofNode trigger n).map .action
    else .error (.unexpectedNode trigger found)

def condition? : TriggerItem → Option Condition
  | .condition c => some c
  | .action _ => none

def action? : TriggerItem → Option TriggerAction
  | .condition _ => none
  | .action a => some a

end TriggerItem

def PropertyTrigger.ofNode (n : Node Token) : Except Fault PropertyTrigger := do
  let items ← n.nodes.mapM (TriggerItem.ofNode n.kind)
  return {
    important := n.hasToken .important
    conditions := items.filterMap TriggerItem.condition?
    actions := items.filterMap TriggerItem.action? }

namespace EventTrigger

/-- The argument that has a trigger act on handled events too. -/
def handledArgument : String := "handled"

/-- The argument that has a trigger mark the event as handled. -/
def setHandledArgument : String := "set-handled"

def actionOf (trigger : NodeKind) (n : Node Token) : Except Fault TriggerAction :=
  if n.kind.isAction then TriggerAction.ofNode trigger n
  else .error (.unexpectedNode trigger n.kind)

def ofNode (n : Node Token) : Except Fault EventTrigger := do
  let event ← n.requireText .identifier
  let actions ← n.nodes.mapM (actionOf n.kind)
  return {
    event
    handled := (n.textsOf .argument).contains handledArgument
    setHandled := (n.textsOf .argument).contains setHandledArgument
    important := n.hasToken .important
    actions }

end EventTrigger

/-! ### Rule sets -/

/-- What stands inside a rule set. -/
inductive RuleSetItem where
  | selector (selector : Selector)
  | rule (rule : Rule)
  | trigger (trigger : Trigger)
deriving DecidableEq, Repr

namespace RuleSetItem

def ofNode (parent : NodeKind) (n : Node Token) : Except Fault RuleSetItem :=
  match n.kind with
  | .selector => (Selector.ofNode n).map .selector
  | .rule => (Rule.ofNode n).map .rule
  | .transition => .ok (.rule (Rule.ofTransition n))
  | .propertyTrigger => (PropertyTrigger.ofNode n).map fun t => .trigger (.property t)
  | .eventTrigger => (EventTrigger.ofNode n).map fun t => .trigger (.event t)
  | found => .error (.unexpectedNode parent found)

def selector? : RuleSetItem → Option Selector
  | .selector s => some s
  | _ => none

def rule? : RuleSetItem → Option Rule
  | .rule r => some r
  | _ => none

def trigger? : RuleSetItem → Option Trigger
  | .trigger t => some t
  | _ => none

end RuleSetItem

/-- The rule set of items. -/
def RuleSet.ofItems (items : List RuleSetItem) : RuleSet where
  selectors := items.filterMap RuleSetItem.selector?
  rules := items.filterMap RuleSetItem.rule?
  triggers := items.filterMap RuleSetItem.trigger?

/-- The items of two parts give the selectors, rules and triggers of the one and then the other. -/
theorem RuleSet.ofItems_append (first second : List RuleSetItem) :
    RuleSet.ofItems (first ++ second) =
      { selectors := (RuleSet.ofItems first).selectors ++ (RuleSet.ofItems second).selectors
        rules := (RuleSet.ofItems first).rules ++ (RuleSet.ofItems second).rules
        triggers := (RuleSet.ofItems first).triggers ++ (RuleSet.ofItems second).triggers } := by
  simp only [RuleSet.ofItems, List.filterMap_append]

def RuleSet.ofNode (n : Node Token) : Except Fault RuleSet :=
  (n.nodes.mapM (RuleSetItem.ofNode n.kind)).map RuleSet.ofItems

end StyledText.Stylesheet
