import StyledText.Stylesheet.Rule
import StyledText.Stylesheet.Selector

/-!
# Triggers

A trigger does something: it plays a storyboard or a sound or sets a property.  A property trigger
waits until all its conditions hold, an event trigger until an event occurs.
-/

namespace StyledText.Stylesheet

/-- How a condition compares. -/
inductive Comparison where
  | equals
  | notEquals
  | greaterThan
  | lessThan
  | greaterOrEqual
  | lessOrEqual
deriving DecidableEq, Repr

namespace Comparison

def all : List Comparison :=
  [.equals, .notEquals, .greaterThan, .lessThan, .greaterOrEqual, .lessOrEqual]

def name : Comparison → String
  | .equals => "equals"
  | .notEquals => "not-equals"
  | .greaterThan => "greater-than"
  | .lessThan => "less-than"
  | .greaterOrEqual => "greater-or-equal"
  | .lessOrEqual => "less-or-equal"

def sign : Comparison → String
  | .equals => "=="
  | .notEquals => "!="
  | .greaterThan => ">"
  | .lessThan => "<"
  | .greaterOrEqual => ">="
  | .lessOrEqual => "<="

def ofSign? (sign : String) : Option Comparison := all.find? fun c => c.sign == sign

end Comparison

/-- A comparison of a property with a value. -/
structure Condition where
  property : PropertyName
  comparison : Comparison
  value : String
deriving DecidableEq, Repr

/-- What a trigger does. -/
inductive TriggerAction where
  /-- Plays a storyboard, on the elements of a selector if there is one. -/
  | playStoryboard (storyboard : String) (selector : Option Selector)
  | playSound (asset : String)
  /-- Sets a property, of the elements of a selector if there is one. -/
  | set (property : PropertyName) (selector : Option Selector) (value : String)
deriving DecidableEq, Repr

/-- A trigger that waits for conditions. -/
structure PropertyTrigger where
  important : Bool
  /-- The conditions, all of which must hold. -/
  conditions : List Condition
  actions : List TriggerAction
deriving DecidableEq, Repr

/-- A trigger that waits for an event. -/
structure EventTrigger where
  event : String
  /-- Whether it also acts on events that were handled before. -/
  handled : Bool
  /-- Whether it marks the event as handled. -/
  setHandled : Bool
  important : Bool
  actions : List TriggerAction
deriving DecidableEq, Repr

/-- A trigger of either sort. -/
inductive Trigger where
  | property (trigger : PropertyTrigger)
  | event (trigger : EventTrigger)
deriving DecidableEq, Repr

namespace Trigger

def actions : Trigger → List TriggerAction
  | .property trigger => trigger.actions
  | .event trigger => trigger.actions

def important : Trigger → Bool
  | .property trigger => trigger.important
  | .event trigger => trigger.important

def property? : Trigger → Option PropertyTrigger
  | .property trigger => some trigger
  | .event _ => none

def event? : Trigger → Option EventTrigger
  | .property _ => none
  | .event trigger => some trigger

end Trigger

end StyledText.Stylesheet
