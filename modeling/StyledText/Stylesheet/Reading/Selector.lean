import StyledText.Stylesheet.Reading.Node
import StyledText.Stylesheet.Selector

/-!
# Reading selectors

The parts of a selector stand in its node in order, with the signs of qualifiers as tokens between
them.  A sign is for the part that follows: of several in a row the last one counts, and a part with
no sign before it is a descendant.
-/

namespace StyledText.Stylesheet

open Syntax

/-- The part that a node describes, with a qualifier. -/
def SelectorPart.ofNode (qualifier : Qualifier) (n : Node Token) : SelectorPart where
  qualifier := qualifier
  element := n.text? .typeName
  exact := n.hasToken .exact
  id := n.text? .id
  pseudoClass := n.text? .pseudoClass
  classes := n.textsOf .className

namespace Selector

/-- The parts in the children of a selector node, the first of them with a qualifier. -/
def partsOf (parent : NodeKind) (qualifier : Qualifier) :
    List (Element Token (Node Token)) → Except Fault (List SelectorPart)
  | [] => .ok []
  | .token t :: rest =>
    if t.kind = .childQualifier then
      match Qualifier.ofSign? t.text.text with
      | none => .error (.unknownQualifier t.text.text)
      | some next => partsOf parent next rest
    else partsOf parent qualifier rest
  | .node n :: rest =>
    if n.kind = .selectorPart then
      (partsOf parent .descendant rest).map (SelectorPart.ofNode qualifier n :: ·)
    else .error (.unexpectedNode parent n.kind)

def ofNode (n : Node Token) : Except Fault Selector :=
  (partsOf n.kind .descendant n.children).map Selector.mk

end Selector

end StyledText.Stylesheet
