import StyledText.Syntax.Tree

/-!
# Building syntax trees

A parser reports what it finds in the order of the source: nodes open and close, and tokens and
diagnostics go to the innermost open node.  A `Builder` takes these reports.  The texts of the
tokens are written one after another with a space between, and that is the source of the finished
tree, so spans and texts agree whatever the parser read.

The root is open from the start and cannot be closed; `finish` closes every node that is still open.
-/

namespace StyledText.Syntax

/-- A token whose text is yet to be cut from the source. -/
structure Lexeme where
  kind : TokenKind
  span : Span
deriving DecidableEq, Repr

/-- The token of a lexeme in a source. -/
def Lexeme.toToken (source : Text.TextBuffer) (l : Lexeme) : Token where
  kind := l.kind
  text := (Text.Segment.ofRange? source l.span.start l.span.stop).getD default
  span := l.span

/-- A node that can still take children. -/
structure OpenNode where
  kind : NodeKind
  start : Nat
  children : List (Element Lexeme (Node Lexeme)) := []
  diagnostics : List Diagnostic := []

namespace OpenNode

/-- The node with one more child. -/
def push (n : OpenNode) (child : Element Lexeme (Node Lexeme)) : OpenNode :=
  { n with children := n.children ++ [child] }

/-- The node, which ends at an offset. -/
def close (n : OpenNode) (stop : Nat) : Node Lexeme :=
  ⟨n.kind, ⟨n.start, stop⟩, n.children, n.diagnostics⟩

/-- The root of the tree: a node and the open nodes around it, innermost first, all closed at an
offset. -/
def closeAll (stop : Nat) (n : OpenNode) : List OpenNode → Node Lexeme
  | [] => n.close stop
  | parent :: outer => closeAll stop (parent.push (.node (n.close stop))) outer

end OpenNode

/-- A syntax tree under construction. -/
structure Builder where
  text : String := ""
  /-- The innermost open node. -/
  current : OpenNode := { kind := .document, start := 0 }
  /-- The open nodes around it, innermost first; the last is the root. -/
  enclosing : List OpenNode := []

namespace Builder

/-- A tree of which only the root is open. -/
def empty : Builder := {}

instance : EmptyCollection Builder := ⟨empty⟩

instance : Inhabited Builder := ⟨empty⟩

/-- The size of the source so far. -/
def offset (b : Builder) : Nat := b.text.utf8ByteSize

def startNode (b : Builder) (kind : NodeKind) : Builder :=
  { b with current := { kind, start := b.offset }, enclosing := b.current :: b.enclosing }

/-- Adds a token to the innermost open node: its span, and the builder after.  A space parts its
text from what was written before. -/
def token (b : Builder) (kind : TokenKind) (text : String) : Span × Builder :=
  let before := if b.text.isEmpty then "" else b.text ++ " "
  let span : Span := ⟨before.utf8ByteSize, before.utf8ByteSize + text.utf8ByteSize⟩
  (span, { b with text := before ++ text, current := b.current.push (.token ⟨kind, span⟩) })

/-- Adds a diagnostic to the innermost open node. -/
def diagnostic (b : Builder) (d : Diagnostic) : Builder :=
  { b with current := { b.current with diagnostics := b.current.diagnostics ++ [d] } }

/-- The span of the innermost open node if it ended here. -/
def currentSpan (b : Builder) : Span := ⟨b.current.start, b.offset⟩

/-- Closes the innermost open node, unless it is the root. -/
def finishNode (b : Builder) : Builder :=
  match b.enclosing with
  | [] => b
  | parent :: outer =>
    { b with current := parent.push (.node (b.current.close b.offset)), enclosing := outer }

/-- Closes all open nodes and cuts the texts of the tokens from the source. -/
def finish (b : Builder) : Tree :=
  let source : Text.TextBuffer := ⟨0, b.text⟩
  let root := b.current.closeAll b.offset b.enclosing
  ⟨root.mapTokens (Lexeme.toToken source), source⟩

end Builder

end StyledText.Syntax
