/-!
# Rules

A rule gives a property of the selected elements a value.  A transition is kept as a rule of the
property `transition` with arguments instead of a value, so rules and transitions keep their order.
-/

namespace StyledText.Stylesheet

/-- The name of a property. -/
structure PropertyName where
  /-- The type that owns the property, when it is attached to elements of other types. -/
  owner : Option String := none
  name : String
deriving DecidableEq, Repr

namespace PropertyName

/-- Whether the property belongs to another type than the element. -/
def isAttached (p : PropertyName) : Bool := p.owner.isSome

/-- The spelling of the name, behind its owner and a point when attached. -/
def text (p : PropertyName) : String :=
  match p.owner with
  | some owner => owner ++ "." ++ p.name
  | none => p.name

/-- The property that transitions are kept under. -/
def transition : PropertyName := { name := "transition" }

end PropertyName

/-- A property with its value. -/
structure Rule where
  property : PropertyName
  /-- The value; empty for a transition. -/
  value : String := ""
  important : Bool := false
  arguments : List String := []
deriving DecidableEq, Repr

/-- Whether the rule is a transition, which its property tells. -/
def Rule.isTransition (r : Rule) : Bool := r.property == .transition

end StyledText.Stylesheet
