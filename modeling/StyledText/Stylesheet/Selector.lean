/-!
# Selectors

A selector tells which elements a rule set is for.  Its parts lead down the element tree: each asks
for the type, the identifier, the classes and the state of one element, and its qualifier says how
that element lies below the one of the part before.

The text of a selector is its usual spelling, such as `Window >> Border ^Grid#main.wide:focused`.
The qualifier of the first part has nothing before it and is not shown.
-/

namespace StyledText.Stylesheet

/-- How an element lies below another. -/
inductive Qualifier where
  /-- At any depth. -/
  | descendant
  /-- Directly, in the visual tree. -/
  | visualChild
  /-- Made by the template of the other. -/
  | templatedChild
  /-- Directly, in the logical tree. -/
  | logicalChild
deriving DecidableEq, Repr

namespace Qualifier

def name : Qualifier → String
  | .descendant => "descendant"
  | .visualChild => "visual-child"
  | .templatedChild => "templated-child"
  | .logicalChild => "logical-child"

/-- The qualifier that a sign stands for.  To be a descendant needs no sign. -/
def ofSign? (sign : String) : Option Qualifier :=
  if sign = ">" then some .visualChild
  else if sign = ">>" then some .templatedChild
  else if sign = "/" then some .logicalChild
  else none

/-- What stands before a part with the qualifier. -/
def separator : Qualifier → String
  | .descendant => " "
  | .visualChild => " > "
  | .templatedChild => " >> "
  | .logicalChild => " / "

end Qualifier

/-- What a selector asks of one element. -/
structure SelectorPart where
  qualifier : Qualifier := .descendant
  /-- The type of the element; any type without it. -/
  element : Option String := none
  /-- Whether subtypes are left out. -/
  exact : Bool := false
  id : Option String := none
  pseudoClass : Option String := none
  classes : List String := []
deriving DecidableEq, Repr

namespace SelectorPart

/-- The spelling of the type: a star for any type when neither an identifier nor a class follows. -/
def elementText (p : SelectorPart) : String :=
  match p.element with
  | some element => element
  | none => if p.id.isNone && p.classes.isEmpty then "*" else ""

def text (p : SelectorPart) : String :=
  (if p.exact then "^" else "") ++ p.elementText ++
    (p.id.elim "" fun id => "#" ++ id) ++
    String.join (p.classes.map fun c => "." ++ c) ++
    (p.pseudoClass.elim "" fun state => ":" ++ state)

end SelectorPart

/-- A path down the element tree. -/
structure Selector where
  /-- The parts, the outermost element first. -/
  parts : List SelectorPart
deriving DecidableEq, Repr

def Selector.text (s : Selector) : String :=
  match s.parts with
  | [] => ""
  | first :: rest => first.text ++ String.join (rest.map fun p => p.qualifier.separator ++ p.text)

end StyledText.Stylesheet
