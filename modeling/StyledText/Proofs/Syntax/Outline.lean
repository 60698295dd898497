import StyledText.Syntax.Tree

/-!
# Outlines of trees

The outline of a tree is all that it says apart from where it stands in its source: the kinds of
nodes and tokens, the texts, the diagnostics, and the order of the children.  A parser knows no more
of a tree when it reports it, and no more is looked at when a tree is read.
-/

namespace StyledText.Syntax

/-- A token or a node without the places in the source. -/
inductive Outline where
  | token (kind : TokenKind) (text : String)
  | node (kind : NodeKind) (diagnostics : List Diagnostic) (children : List Outline)

/-! ### The outline of a tree -/

def Token.outline (t : Token) : Outline := .token t.kind t.text.text

namespace Node

variable {τ υ : Type}

mutual

/-- The outline of a tree whose tokens have outlines. -/
def outline (leaf : τ → Outline) : Node τ → Outline
  | ⟨kind, _, children, diagnostics⟩ => .node kind diagnostics (outlineBelow leaf children)

/-- The outlines of children. -/
def outlineBelow (leaf : τ → Outline) : List (Element τ (Node τ)) → List Outline
  | [] => []
  | .token t :: rest => leaf t :: outlineBelow leaf rest
  | .node n :: rest => n.outline leaf :: outlineBelow leaf rest

end

theorem outlineBelow_append (leaf : τ → Outline) (first second : List (Element τ (Node τ))) :
    outlineBelow leaf (first ++ second) = outlineBelow leaf first ++ outlineBelow leaf second := by
  induction first with
  | nil => rfl
  | cons child rest ih =>
    cases child with
    | token t => exact congrArg (leaf t :: ·) ih
    | node n => exact congrArg (n.outline leaf :: ·) ih

mutual

/-- Replacing the tokens of a tree replaces their outlines. -/
theorem outline_mapTokens (leaf : υ → Outline) (f : τ → υ) :
    ∀ n : Node τ, (n.mapTokens f).outline leaf = n.outline fun t => leaf (f t)
  | ⟨kind, _, children, diagnostics⟩ =>
    congrArg (Outline.node kind diagnostics) (outlineBelow_mapChildren leaf f children)

theorem outlineBelow_mapChildren (leaf : υ → Outline) (f : τ → υ) :
    ∀ children : List (Element τ (Node τ)),
      outlineBelow leaf (mapChildren f children) = outlineBelow (fun t => leaf (f t)) children
  | [] => rfl
  | .token t :: rest => congrArg (leaf (f t) :: ·) (outlineBelow_mapChildren leaf f rest)
  | .node n :: rest => by
    rw [mapChildren, outlineBelow, outlineBelow, outline_mapTokens leaf f n,
      outlineBelow_mapChildren leaf f rest]

end

end Node

/-! ### Diagnostics -/

mutual

/-- The diagnostics of an outline: those of a node before those of its children. -/
def Outline.allDiagnostics : Outline → List Diagnostic
  | .token .. => []
  | .node _ diagnostics children => diagnostics ++ Outline.diagnosticsBelow children

/-- The diagnostics of outlines in a row. -/
def Outline.diagnosticsBelow : List Outline → List Diagnostic
  | [] => []
  | o :: os => o.allDiagnostics ++ Outline.diagnosticsBelow os

end

namespace Outline

@[simp] theorem diagnosticsBelow_eq_flatMap (os : List Outline) :
    diagnosticsBelow os = os.flatMap allDiagnostics := by
  induction os with
  | nil => rfl
  | cons o os ih => rw [diagnosticsBelow, ih, List.flatMap_cons]

end Outline

mutual

/-- A tree has the diagnostics of its outline. -/
theorem Node.allDiagnostics_outline :
    ∀ n : Node Token, (n.outline Token.outline).allDiagnostics = n.allDiagnostics
  | ⟨_, _, children, diagnostics⟩ =>
    congrArg (diagnostics ++ ·) (Node.diagnosticsBelow_outlineBelow children)

theorem Node.diagnosticsBelow_outlineBelow :
    ∀ children : List (Element Token (Node Token)),
      Outline.diagnosticsBelow (Node.outlineBelow Token.outline children) =
        Node.childDiagnostics children
  | [] => rfl
  | .token _ :: rest => Node.diagnosticsBelow_outlineBelow rest
  | .node n :: rest => by
    rw [Node.outlineBelow, Outline.diagnosticsBelow, Node.allDiagnostics_outline n,
      Node.diagnosticsBelow_outlineBelow rest, Node.childDiagnostics]

end

/-! ### Looking into outlines

What is found among outlines in a row is found row by row, so that it can be computed with `simp`
from the way in which the outlines are put together.
-/

namespace Outline

/-- The text of a token of a kind. -/
def text? (kind : TokenKind) : Outline → Option String
  | .token k text => if k = kind then some text else none
  | .node .. => none

/-- The texts of the tokens of a kind. -/
def textsOf (kind : TokenKind) (os : List Outline) : List String := os.filterMap (text? kind)

/-- The kind of a node. -/
def kind? : Outline → Option NodeKind
  | .token .. => none
  | .node kind .. => some kind

/-- The nodes among outlines. -/
def nodesOf (os : List Outline) : List Outline := os.filter fun o => o.kind?.isSome

/-- The first node of a kind. -/
@[simp] def node? (kind : NodeKind) (os : List Outline) : Option Outline :=
  (nodesOf os).find? fun o => decide (o.kind? = some kind)

/-- Tokens of one kind in a row. -/
def tokens (kind : TokenKind) (texts : List String) : List Outline := texts.map (.token kind)

attribute [simp] allDiagnostics

@[simp] theorem diagnosticsBelow_tokens {kind : TokenKind} {texts : List String} :
    (tokens kind texts).flatMap allDiagnostics = [] := by
  rw [tokens, List.flatMap_map]
  exact List.flatMap_eq_nil_iff.2 fun _ _ => rfl

variable {α : Type} {kind k : TokenKind} {text : String} {o : Outline} {os : List Outline}

@[simp] theorem textsOf_nil : textsOf kind [] = [] := rfl

@[simp] theorem textsOf_append (first second : List Outline) :
    textsOf kind (first ++ second) = textsOf kind first ++ textsOf kind second :=
  List.filterMap_append

@[simp] theorem textsOf_node (h : o.kind?.isSome = true) :
    textsOf kind (o :: os) = textsOf kind os := by
  cases o with
  | token => cases h
  | node => rfl

@[simp] theorem textsOf_token :
    textsOf kind (.token k text :: os) =
      if k = kind then text :: textsOf kind os else textsOf kind os := by
  rw [textsOf, List.filterMap_cons, text?]
  by_cases hkind : k = kind
  · rw [if_pos hkind, if_pos hkind]
    rfl
  · rw [if_neg hkind, if_neg hkind]
    rfl

@[simp] theorem textsOf_tokens {texts : List String} :
    textsOf kind (tokens k texts) = if k = kind then texts else [] := by
  induction texts with
  | nil => simp [tokens]
  | cons text texts ih =>
    show textsOf kind (.token k text :: tokens k texts) = _
    rw [textsOf_token, ih]
    split <;> rfl

@[simp] theorem textsOf_map {f : α → Outline} (h : ∀ x, (f x).kind?.isSome = true) (xs : List α) :
    textsOf kind (xs.map f) = [] := by
  induction xs with
  | nil => rfl
  | cons x xs ih => rw [List.map_cons, textsOf_node (h x), ih]

@[simp] theorem nodesOf_nil : nodesOf [] = [] := rfl

@[simp] theorem nodesOf_append (first second : List Outline) :
    nodesOf (first ++ second) = nodesOf first ++ nodesOf second :=
  List.filter_append first second

@[simp] theorem nodesOf_node (h : o.kind?.isSome = true) : nodesOf (o :: os) = o :: nodesOf os :=
  List.filter_cons_of_pos h

@[simp] theorem nodesOf_token : nodesOf (.token k text :: os) = nodesOf os := rfl

@[simp] theorem nodesOf_tokens {texts : List String} : nodesOf (tokens k texts) = [] := by
  induction texts with
  | nil => rfl
  | cons text texts ih => exact ih

@[simp] theorem nodesOf_map {f : α → Outline} (h : ∀ x, (f x).kind?.isSome = true) (xs : List α) :
    nodesOf (xs.map f) = xs.map f := by
  induction xs with
  | nil => rfl
  | cons x xs ih => rw [List.map_cons, nodesOf_node (h x), ih]

end Outline

end StyledText.Syntax
