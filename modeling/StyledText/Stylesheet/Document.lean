import StyledText.Stylesheet.Storyboard
import StyledText.Stylesheet.Trigger

/-!
# Documents

A compiled stylesheet: rule sets and storyboards, each in the order of the source.
-/

namespace StyledText.Stylesheet

/-- The rules and triggers for the elements that any of several selectors finds. -/
structure RuleSet where
  selectors : List Selector := []
  rules : List Rule := []
  triggers : List Trigger := []
deriving DecidableEq, Repr

namespace RuleSet

def transitions (s : RuleSet) : List Rule := s.rules.filter Rule.isTransition

def propertyTriggers (s : RuleSet) : List PropertyTrigger := s.triggers.filterMap Trigger.property?

def eventTriggers (s : RuleSet) : List EventTrigger := s.triggers.filterMap Trigger.event?

end RuleSet

/-- A compiled stylesheet. -/
structure Document where
  ruleSets : List RuleSet := []
  storyboards : List Storyboard := []
deriving DecidableEq, Repr

namespace Document

def storyboard? (d : Document) (name : String) : Option Storyboard :=
  d.storyboards.find? fun s => s.name == name

def isEmpty (d : Document) : Bool := d.ruleSets.isEmpty && d.storyboards.isEmpty

end Document

end StyledText.Stylesheet
