import StyledText.Diagnostic
import StyledText.Syntax.Kind
import StyledText.Text.Segment

/-!
# Syntax trees

A node has a kind, a span, its children in order, and diagnostics of its own.  Children are tokens
or nodes again.  The type of the tokens is a parameter: the tokens of a finished tree have a text,
those of a tree under construction only know where their text will stand.

Children are found by kind, tokens among tokens and nodes among nodes, always the first in order.
`Node.allDiagnostics` lists the diagnostics of a whole tree, those of a node before those of the
nodes below it.
-/

namespace StyledText.Syntax

/-- A child of a node. -/
inductive Element (τ ν : Type) where
  | token (token : τ)
  | node (node : ν)
deriving DecidableEq, Repr

namespace Element

variable {τ ν : Type}

def token? : Element τ ν → Option τ
  | .token t => some t
  | .node _ => none

def node? : Element τ ν → Option ν
  | .token _ => none
  | .node n => some n

end Element

/-- A node with tokens of type `τ`. -/
structure Node (τ : Type) where
  kind : NodeKind
  /-- The source that the node covers. -/
  span : Span := .none
  children : List (Element τ (Node τ)) := []
  diagnostics : List Diagnostic := []

/-- A leaf of a syntax tree. -/
structure Token where
  kind : TokenKind
  text : Text.Segment
  span : Span := .none

namespace Node

variable {τ υ : Type}

def nodes (n : Node τ) : List (Node τ) := n.children.filterMap Element.node?

def tokens (n : Node τ) : List τ := n.children.filterMap Element.token?

def node? (n : Node τ) (kind : NodeKind) : Option (Node τ) := n.nodes.find? fun m => m.kind == kind

def tokensOf (n : Node Token) (kind : TokenKind) : List Token :=
  n.tokens.filter fun t => t.kind == kind

def token? (n : Node Token) (kind : TokenKind) : Option Token := (n.tokensOf kind).head?

/-- Whether there is a token of a kind directly below. -/
def hasToken (n : Node Token) (kind : TokenKind) : Bool := (n.token? kind).isSome

/-- The node that a path leads to: each number chooses among the nodes directly below. -/
def descend? (n : Node τ) : List Nat → Option (Node τ)
  | [] => some n
  | i :: path => n.nodes[i]?.bind fun m => m.descend? path

/-! ### Whole trees -/

mutual

/-- The diagnostics of the node and of all nodes below it: its own first, then those of its children
in order. -/
def allDiagnostics : Node τ → List Diagnostic
  | ⟨_, _, children, diagnostics⟩ => diagnostics ++ childDiagnostics children

/-- The diagnostics of all nodes in a list of children, in order. -/
def childDiagnostics : List (Element τ (Node τ)) → List Diagnostic
  | [] => []
  | .token _ :: rest => childDiagnostics rest
  | .node n :: rest => allDiagnostics n ++ childDiagnostics rest

end

/-- The diagnostics in a list of children are those of its nodes. -/
theorem childDiagnostics_eq_flatMap (children : List (Element τ (Node τ))) :
    childDiagnostics children = (children.filterMap Element.node?).flatMap allDiagnostics := by
  induction children with
  | nil => rfl
  | cons child rest ih =>
    cases child with
    | token t => rw [childDiagnostics, ih, List.filterMap_cons_none rfl]
    | node n =>
      have hn : (Element.node n : Element τ (Node τ)).node? = some n := rfl
      rw [childDiagnostics, ih, List.filterMap_cons_some hn, List.flatMap_cons]

/-- The diagnostics of a tree, node by node. -/
theorem allDiagnostics_eq (n : Node τ) :
    n.allDiagnostics = n.diagnostics ++ n.nodes.flatMap allDiagnostics := by
  cases n with
  | mk kind span children diagnostics =>
    rw [allDiagnostics, childDiagnostics_eq_flatMap]
    rfl

mutual

/-- The tree with each token replaced. -/
def mapTokens (f : τ → υ) : Node τ → Node υ
  | ⟨kind, span, children, diagnostics⟩ => ⟨kind, span, mapChildren f children, diagnostics⟩

/-- The children with each token replaced. -/
def mapChildren (f : τ → υ) : List (Element τ (Node τ)) → List (Element υ (Node υ))
  | [] => []
  | .token t :: rest => .token (f t) :: mapChildren f rest
  | .node n :: rest => .node (mapTokens f n) :: mapChildren f rest

end

end Node

/-- A syntax tree with the source that it covers. -/
structure Tree where
  root : Node Token
  source : Text.TextBuffer

namespace Tree

def diagnostics (t : Tree) : List Diagnostic := t.root.allDiagnostics

def hasErrors (t : Tree) : Bool := t.diagnostics.any Diagnostic.isError

end Tree

end StyledText.Syntax
