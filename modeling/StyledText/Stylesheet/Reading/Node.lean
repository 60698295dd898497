import StyledText.Stylesheet.Fault
import StyledText.Syntax.Tree

/-!
# Reading nodes

What a node must have directly below it to be read as part of a stylesheet.  Of several tokens or
nodes of a kind the first is read.
-/

namespace StyledText.Syntax.Node

open Stylesheet

/-- The texts of the tokens of a kind, in order. -/
def textsOf (n : Node Token) (kind : TokenKind) : List String :=
  (n.tokensOf kind).map fun t => t.text.text

/-- The text of the token of a kind. -/
def text? (n : Node Token) (kind : TokenKind) : Option String := (n.textsOf kind).head?

/-- The text of the token of a kind, which the node must have. -/
def requireText (n : Node Token) (kind : TokenKind) : Except Fault String :=
  match n.text? kind with
  | some text => .ok text
  | none => .error (.missingToken n.kind kind)

/-- The node of a kind below, which the node must have. -/
def requireNode (n : Node Token) (kind : NodeKind) : Except Fault (Node Token) :=
  match n.node? kind with
  | some child => .ok child
  | none => .error (.missingNode n.kind kind)

end StyledText.Syntax.Node
