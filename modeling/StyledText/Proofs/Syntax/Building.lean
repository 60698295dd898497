import StyledText.Proofs.Syntax.Outline
import StyledText.Proofs.Text.Boundary
import StyledText.Syntax.Builder

/-!
# Trees are built as they are told

A parser makes calls to a builder: it opens and closes nodes and tells what stands in them.  `Tells`
says which calls tell what, and by induction on it

* **the tree that is built is the one that was told**, `outline_finish_run`: the nodes and tokens
  have the kinds, texts, diagnostics and order that they were told with, provided that the source
  stays within the limit of segments;
* **closing at the end makes no difference**, `finish_run_told`: a builder that is finished closes
  what is open, so the calls that close the last nodes can be left out, and the root is not closed
  by calls too many.

A token is told by its text but kept by its place, and its text is only cut when the source is
complete.  So what holds of a builder between calls is said of all sources that its text may still
grow to.
-/

namespace StyledText.Syntax

open Text

/-! ### Calls -/

/-- A call to a builder. -/
inductive Call where
  | startNode (kind : NodeKind)
  | token (kind : TokenKind) (text : String)
  | diagnostic (d : Diagnostic)
  | finishNode
deriving DecidableEq, Repr

namespace Builder

def perform (b : Builder) : Call → Builder
  | .startNode kind => b.startNode kind
  | .token kind text => (b.token kind text).2
  | .diagnostic d => b.diagnostic d
  | .finishNode => b.finishNode

def run (b : Builder) (calls : List Call) : Builder := calls.foldl perform b

theorem run_append (b : Builder) (first second : List Call) :
    b.run (first ++ second) = (b.run first).run second := List.foldl_append

end Builder

/-- The calls tell diagnostics and children of the node that is open: each child from its start to
its end, and the diagnostics at any points between. -/
inductive Tells : List Call → List Diagnostic → List Outline → Prop
  | nil : Tells [] [] []
  | diagnostic (d : Diagnostic) {calls ds os} (rest : Tells calls ds os) :
    Tells (.diagnostic d :: calls) (d :: ds) os
  | token (kind : TokenKind) (text : String) {calls ds os} (rest : Tells calls ds os) :
    Tells (.token kind text :: calls) ds (.token kind text :: os)
  | node (kind : NodeKind) {inner below diagnostics calls ds os}
    (inside : Tells inner diagnostics below) (rest : Tells calls ds os) :
    Tells (.startNode kind :: (inner ++ .finishNode :: calls)) ds
      (.node kind diagnostics below :: os)

/-! ### Telling an outline -/

namespace Outline

mutual

/-- The calls for an outline, a node with its diagnostics before its children. -/
def calls : Outline → List Call
  | .token kind text => [.token kind text]
  | .node kind ds children =>
    .startNode kind :: (ds.map .diagnostic ++ callsAll children ++ [.finishNode])

/-- The calls for outlines in a row. -/
def callsAll : List Outline → List Call
  | [] => []
  | o :: os => o.calls ++ callsAll os

end

end Outline

theorem Tells.diagnostics (ds : List Diagnostic) {calls : List Call} {after : List Diagnostic}
    {os : List Outline} (h : Tells calls after os) :
    Tells (ds.map .diagnostic ++ calls) (ds ++ after) os := by
  induction ds with
  | nil => exact h
  | cons d ds ih => exact .diagnostic d ih

mutual

theorem Outline.tells_calls_append {calls : List Call} {ds : List Diagnostic} {os : List Outline}
    (h : Tells calls ds os) : ∀ o : Outline, Tells (o.calls ++ calls) ds (o :: os)
  | .token kind text => .token kind text h
  | .node kind ds children => by
    have hinside := (tells_callsAll children).diagnostics ds
    rw [List.append_nil] at hinside
    have hnode := Tells.node kind hinside h
    rw [Outline.calls, List.cons_append, List.append_assoc _ [Call.finishNode]]
    exact hnode

/-- The calls for outlines tell these. -/
theorem Outline.tells_callsAll : ∀ os : List Outline, Tells (callsAll os) [] os
  | [] => .nil
  | o :: os => tells_calls_append (tells_callsAll os) o

end

/-! ### What calls add to a builder -/

/-- What a lexeme says in a source: the outline of its token. -/
def Lexeme.outline (source : TextBuffer) (l : Lexeme) : Outline := (l.toToken source).outline

/-- A text that stands in a source within the limit is what its place says there. -/
theorem outline_lexeme {source : TextBuffer} {before text after : String} (kind : TokenKind)
    (hsource : source.text = before ++ text ++ after)
    (hsize : source.text.utf8ByteSize < Segment.sizeLimit) :
    Lexeme.outline source
        ⟨kind, ⟨before.utf8ByteSize, before.utf8ByteSize + text.utf8ByteSize⟩⟩ =
      .token kind text := by
  have hcut : cut? before.utf8ByteSize (before.utf8ByteSize + text.utf8ByteSize) source.text =
      some text :=
    cut?_eq_some_iff_append.2 ⟨before, after, hsource, rfl, String.utf8ByteSize_append⟩
  obtain ⟨segment, hsegment, rfl⟩ := Segment.exists_ofRange? hcut hsize
  rw [Lexeme.outline, Lexeme.toToken, hsegment]
  rfl

/-- The text of the second begins with that of the first, the same nodes are open, and the innermost
has some diagnostics and children more, whose outlines these are in any source that begins with the
text. -/
structure Adds (b b' : Builder) (ds : List Diagnostic) (os : List Outline) : Prop where
  text : ∃ more, b'.text = b.text ++ more
  enclosing : b'.enclosing = b.enclosing
  current : ∃ children,
    b'.current = { b.current with
      children := b.current.children ++ children
      diagnostics := b.current.diagnostics ++ ds } ∧
    ∀ source : TextBuffer, source.text.utf8ByteSize < Segment.sizeLimit →
      (∃ more, source.text = b'.text ++ more) →
        Node.outlineBelow (Lexeme.outline source) children = os

namespace Adds

variable {b b' b'' : Builder} {ds ds' : List Diagnostic} {os os' : List Outline}

theorem refl (b : Builder) : Adds b b [] [] where
  text := ⟨"", String.append_empty.symm⟩
  enclosing := rfl
  current := ⟨[], by simp, fun _ _ _ => rfl⟩

theorem trans (h : Adds b b' ds os) (h' : Adds b' b'' ds' os') :
    Adds b b'' (ds ++ ds') (os ++ os') := by
  obtain ⟨⟨more, htext⟩, henclosing, children, hcurrent, hos⟩ := h
  obtain ⟨⟨more', htext'⟩, henclosing', children', hcurrent', hos'⟩ := h'
  refine ⟨⟨more ++ more', ?_⟩, henclosing'.trans henclosing, children ++ children', ?_, ?_⟩
  · rw [htext', htext, String.append_assoc]
  · rw [hcurrent', hcurrent]
    simp only [List.append_assoc]
  · intro source hsize hsource
    obtain ⟨rest, hrest⟩ := hsource
    have hfirst : ∃ rest, source.text = b'.text ++ rest :=
      ⟨more' ++ rest, by rw [hrest, htext', String.append_assoc]⟩
    rw [Node.outlineBelow_append, hos source hsize hfirst, hos' source hsize ⟨rest, hrest⟩]

theorem diagnostic (b : Builder) (d : Diagnostic) : Adds b (b.diagnostic d) [d] [] where
  text := ⟨"", String.append_empty.symm⟩
  enclosing := rfl
  current := ⟨[], by simp [Builder.diagnostic], fun _ _ _ => rfl⟩

theorem token (b : Builder) (kind : TokenKind) (text : String) :
    Adds b (b.token kind text).2 [] [.token kind text] := by
  let before := if b.text.isEmpty then "" else b.text ++ " "
  have hbefore : ∃ more, before = b.text ++ more := by
    by_cases hempty : b.text.isEmpty
    · exact ⟨"", by rw [String.isEmpty_iff.1 hempty]; exact if_pos hempty⟩
    · exact ⟨" ", if_neg hempty⟩
  obtain ⟨more, hmore⟩ := hbefore
  refine ⟨⟨more ++ text, ?_⟩, rfl, [.token ⟨kind, (b.token kind text).1⟩], ?_, ?_⟩
  · rw [← String.append_assoc, ← hmore]
    rfl
  · rw [List.append_nil]
    rfl
  · intro source hsize hsource
    obtain ⟨after, hafter⟩ := hsource
    exact congrArg (fun o => [o]) (outline_lexeme kind hafter hsize)

/-- What is told inside a node becomes one more child of the node around it. -/
theorem node {kind : NodeKind} (h : Adds (b.startNode kind) b' ds os) :
    Adds b b'.finishNode [] [.node kind ds os] := by
  obtain ⟨htext, henclosing, children, hcurrent, hos⟩ := h
  have hfinish : b'.finishNode = { b' with
      current := b.current.push (.node (b'.current.close b'.offset))
      enclosing := b.enclosing } := by
    rw [Builder.finishNode, henclosing]
    rfl
  rw [hfinish]
  refine ⟨htext, rfl, [.node (b'.current.close b'.offset)], by simp [OpenNode.push], ?_⟩
  intro source hsize hsource
  rw [hcurrent]
  exact congrArg (fun below => [Outline.node kind ds below]) (hos source hsize hsource)

end Adds

/-- Calls add what they tell. -/
theorem Tells.adds_run {calls : List Call} {ds : List Diagnostic} {os : List Outline}
    (h : Tells calls ds os) (b : Builder) : Adds b (b.run calls) ds os := by
  induction h generalizing b with
  | nil => exact .refl b
  | diagnostic d rest ih => exact (Adds.diagnostic b d).trans (ih (b.diagnostic d))
  | token kind text rest ih => exact (Adds.token b kind text).trans (ih (b.token kind text).2)
  | node kind inside rest ihInside ih =>
    show Adds b ((b.startNode kind).run _) _ _
    rw [Builder.run_append]
    exact (ihInside (b.startNode kind)).node.trans (ih _)

/-! ### The finished tree -/

/-- **The tree that is built is the one that was told**, when the source is within the limit. -/
theorem outline_finish_run {calls : List Call} {ds : List Diagnostic} {os : List Outline}
    (h : Tells calls ds os)
    (hsize : (Builder.empty.run calls).finish.source.text.utf8ByteSize < Segment.sizeLimit) :
    (Builder.empty.run calls).finish.root.outline Token.outline = .node .document ds os := by
  obtain ⟨-, henclosing, children, hcurrent, hos⟩ := h.adds_run Builder.empty
  have hbelow := hos (Builder.empty.run calls).finish.source hsize ⟨"", String.append_empty.symm⟩
  rw [Builder.finish, henclosing]
  show (Node.mapTokens _ ((Builder.empty.run calls).current.close _)).outline _ = _
  rw [Node.outline_mapTokens, hcurrent]
  exact congrArg (Outline.node .document ds) hbelow

/-! ### Closing at the end -/

namespace Builder

/-- Finishing closes what is open, so it makes no difference to close a node before. -/
theorem finish_finishNode (b : Builder) : b.finishNode.finish = b.finish := by
  rw [finishNode]
  cases henclosing : b.enclosing with
  | nil => rfl
  | cons parent outer =>
    rw [finish, finish, henclosing]
    rfl

theorem finish_run_append_finishNode (b : Builder) (calls : List Call) (n : Nat) :
    (b.run (calls ++ List.replicate n .finishNode)).finish = (b.run calls).finish := by
  induction n with
  | zero => rw [List.replicate_zero, List.append_nil]
  | succ n ih =>
    rw [List.replicate_succ', ← List.append_assoc, run_append]
    exact (finish_finishNode _).trans ih

end Builder

/-- **A builder rebuilds the tree that it is told.**  There are calls for every tree below a
document, and whatever calls tell it, the tree that they build has its kinds, texts, diagnostics and
order, when the source is within the limit.  And as many nodes as one likes can be left open at the
end, or closed that are not open: the tree is the same, with all of its spans. -/
theorem finish_run_told (ds : List Diagnostic) (os : List Outline) :
    (∃ calls, Tells calls ds os) ∧
      ∀ calls, Tells calls ds os →
        (Builder.empty.run calls).finish.source.text.utf8ByteSize < Segment.sizeLimit →
          (Builder.empty.run calls).finish.root.outline Token.outline = .node .document ds os ∧
          ∀ front n, calls = front ++ List.replicate n .finishNode → ∀ m,
            (Builder.empty.run (front ++ List.replicate m .finishNode)).finish =
              (Builder.empty.run calls).finish := by
  constructor
  · have htells := (Outline.tells_callsAll os).diagnostics ds
    rw [List.append_nil] at htells
    exact ⟨_, htells⟩
  · intro calls htells hsize
    refine ⟨outline_finish_run htells hsize, ?_⟩
    intro front n hcalls m
    rw [hcalls, Builder.finish_run_append_finishNode, Builder.finish_run_append_finishNode]

/-- A storyboard with a target, told with an empty text, a text of more bytes than characters, and a
diagnostic between them.  Neither node need be closed. -/
theorem finish_run_told_open :
    let d : Diagnostic := { severity := .warning, code := .expectedKeyframe }
    let below : List Outline := [.token .identifier "fäde", .node .storyboardTarget []
      [.token .typeName "", .token .typeName "Röhre"]]
    let front : List Call := [.startNode .storyboard, .token .identifier "fäde", .diagnostic d,
      .startNode .storyboardTarget, .token .typeName "", .token .typeName "Röhre"]
    let tree := (Builder.empty.run front).finish
    tree.source.text = "fäde  Röhre" ∧
      tree.root.outline Token.outline = .node .document [] [.node .storyboard [d] below] ∧
      (Builder.empty.run (front ++ List.replicate 5 .finishNode)).finish = tree := by
  intro d below front tree
  have htarget : Tells [.token .typeName "", .token .typeName "Röhre"] []
      [.token .typeName "", .token .typeName "Röhre"] := .token _ _ (.token _ _ .nil)
  have hinside : Tells (front.tail ++ [.finishNode]) [d] below :=
    .token _ _ (.diagnostic d (.node .storyboardTarget htarget .nil))
  have hnode := Tells.node .storyboard hinside .nil
  have htells : Tells (front ++ List.replicate 2 .finishNode) [] [.node .storyboard [d] below] :=
    hnode
  obtain ⟨houtline, hclosing⟩ := (finish_run_told [] [.node .storyboard [d] below]).2 _ htells
    (by decide)
  have hopen := hclosing front 2 rfl 0
  rw [List.replicate_zero, List.append_nil] at hopen
  refine ⟨by decide, ?_, ?_⟩
  · rw [← hopen] at houtline
    exact houtline
  · exact (hclosing front 2 rfl 5).trans hopen.symm

end StyledText.Syntax
