import StyledText.Proofs.Syntax.Building
import StyledText.Proofs.Syntax.Preorder

/-!
# Spans of a tree that is built

A parser can make any calls, balanced or not, and the tree that they build **agrees with its
source**.  A node starts where the source ended when it was opened and stops where the source ended
when it was closed, and between the two the source only grew.  So what stands in a node stands
within its span, child behind child.

What carries this over the calls is said of the nodes that are open: each of them could be closed
where the next one in it starts, and the innermost could be closed now (`OpenNode.Chain`).

* `Node.SpansNested` — each node covers its children, at any depth.
* `Builder.InOrder.run`, `OpenNode.Chain.closeAll` — calls keep the chain in order, and closing it
  gives a tree whose spans are nested.
* `Builder.lexemes_run`, `Builder.cut?_of_mem_told` — the tokens are those that were told, at the
  spans that were answered, and their texts stand there.
* `Builder.text_run` — the source is the texts that were told, with spaces between.
* `finish_run_spans` — all of this for the finished tree.
-/

namespace StyledText

/-! ### Spans within spans -/

/-- The parts lie within the span, one behind another, and do not overlap. -/
structure Span.Covers (s : Span) (parts : List Span) : Prop where
  le : s.start ≤ s.stop
  within : ∀ t ∈ parts, s.start ≤ t.start ∧ t.start ≤ t.stop ∧ t.stop ≤ s.stop
  inOrder : parts.Pairwise fun t u => t.stop ≤ u.start

namespace Span.Covers

variable {start middle stop : Nat} {parts : List Span} {t : Span}

theorem nil (h : start ≤ stop) : (⟨start, stop⟩ : Span).Covers [] :=
  ⟨h, fun _ ht => absurd ht List.not_mem_nil, .nil⟩

/-- A span that stops later covers the same parts. -/
theorem extend (h : (⟨start, middle⟩ : Span).Covers parts) (hstop : middle ≤ stop) :
    (⟨start, stop⟩ : Span).Covers parts := by
  refine ⟨Nat.le_trans h.le hstop, ?_, h.inOrder⟩
  intro u hu
  obtain ⟨hlower, hle, hupper⟩ := h.within u hu
  exact ⟨hlower, hle, Nat.le_trans hupper hstop⟩

/-- One more part can stand behind the others. -/
theorem concat (h : (⟨start, middle⟩ : Span).Covers parts) (hstart : middle ≤ t.start)
    (hle : t.start ≤ t.stop) : (⟨start, t.stop⟩ : Span).Covers (parts ++ [t]) := by
  have hmore := h.extend (Nat.le_trans hstart hle)
  refine ⟨hmore.le, ?_, ?_⟩
  · rw [List.forall_mem_append, List.forall_mem_singleton]
    exact ⟨hmore.within, Nat.le_trans h.le hstart, hle, Nat.le_refl _⟩
  · rw [List.pairwise_append]
    refine ⟨h.inOrder, List.pairwise_singleton _ _, ?_⟩
    intro u hu v hv
    rw [List.mem_singleton.1 hv]
    exact Nat.le_trans (h.within u hu).2.2 hstart

end Span.Covers

namespace Syntax

open Text

/-! ### Trees whose spans are nested -/

/-- The span of a child, where tokens have spans. -/
def Element.span {τ : Type} (leaf : τ → Span) : Element τ (Node τ) → Span
  | .token t => leaf t
  | .node n => n.span

namespace Node

variable {τ υ : Type} {leaf : τ → Span}

/-- The node and every node below it cover their children. -/
def SpansNested (leaf : τ → Span) (n : Node τ) : Prop :=
  ∀ path m, n.descend? path = some m → m.span.Covers (m.children.map (Element.span leaf))

theorem spansNested_iff {n : Node τ} : n.SpansNested leaf ↔
    n.span.Covers (n.children.map (Element.span leaf)) ∧ ∀ m ∈ n.nodes, m.SpansNested leaf := by
  constructor
  · intro h
    refine ⟨h [] n rfl, ?_⟩
    intro m hm path found hfound
    obtain ⟨i, hi⟩ := List.mem_iff_getElem?.1 hm
    apply h (i :: path) found
    rw [descend?, hi]
    exact hfound
  · rintro ⟨hcovers, hbelow⟩ path m hm
    cases path with
    | nil =>
      cases hm
      exact hcovers
    | cons i path =>
      obtain ⟨child, hchild, hfound⟩ := Option.bind_eq_some_iff.1 hm
      exact hbelow child (List.mem_of_getElem? hchild) path m hfound

@[simp] theorem span_mapTokens (f : τ → υ) (n : Node τ) : (n.mapTokens f).span = n.span := by
  cases n
  rfl

theorem map_span_mapChildren (leaf : υ → Span) (f : τ → υ)
    (children : List (Element τ (Node τ))) :
    (mapChildren f children).map (Element.span leaf) =
      children.map (Element.span fun t => leaf (f t)) := by
  induction children with
  | nil => rfl
  | cons child rest ih =>
    cases child with
    | token t => exact congrArg (leaf (f t) :: ·) ih
    | node n =>
      show (n.mapTokens f).span :: _ = n.span :: _
      rw [span_mapTokens, ih]

theorem nodes_mapChildren (f : τ → υ) (children : List (Element τ (Node τ))) :
    (mapChildren f children).filterMap Element.node? =
      (children.filterMap Element.node?).map (mapTokens f) := by
  induction children with
  | nil => rfl
  | cons child rest ih =>
    cases child with
    | token t => exact ih
    | node n => exact congrArg (n.mapTokens f :: ·) ih

/-- Replacing the tokens of a tree by others with the same spans keeps the spans nested. -/
theorem SpansNested.mapTokens {leaf : υ → Span} {f : τ → υ} {n : Node τ}
    (h : n.SpansNested fun t => leaf (f t)) : (n.mapTokens f).SpansNested leaf := by
  induction n using Node.induction with
  | step n ih =>
    cases n with
    | mk kind span children diagnostics =>
      obtain ⟨hcovers, hbelow⟩ := spansNested_iff.1 h
      rw [spansNested_iff]
      constructor
      · show span.Covers ((mapChildren f children).map _)
        rw [map_span_mapChildren]
        exact hcovers
      · show ∀ m ∈ (mapChildren f children).filterMap Element.node?, _
        rw [nodes_mapChildren, List.forall_mem_map]
        intro m hm
        exact ih m hm (hbelow m hm)

/-! ### The tokens of a tree -/

mutual

/-- The tokens of the node and of all nodes below it, in the order of the source. -/
def leaves : Node τ → List τ
  | ⟨_, _, children, _⟩ => leavesBelow children

/-- The tokens among children and below them, in order. -/
def leavesBelow : List (Element τ (Node τ)) → List τ
  | [] => []
  | .token t :: rest => t :: leavesBelow rest
  | .node n :: rest => n.leaves ++ leavesBelow rest

end

theorem leavesBelow_append (first second : List (Element τ (Node τ))) :
    leavesBelow (first ++ second) = leavesBelow first ++ leavesBelow second := by
  induction first with
  | nil => rfl
  | cons child rest ih =>
    cases child with
    | token t => exact congrArg (t :: ·) ih
    | node n => rw [List.cons_append, leavesBelow, leavesBelow, ih, List.append_assoc]

mutual

theorem leaves_mapTokens (f : τ → υ) : ∀ n : Node τ, (n.mapTokens f).leaves = n.leaves.map f
  | ⟨_, _, children, _⟩ => leavesBelow_mapChildren f children

theorem leavesBelow_mapChildren (f : τ → υ) : ∀ children : List (Element τ (Node τ)),
    leavesBelow (mapChildren f children) = (leavesBelow children).map f
  | [] => rfl
  | .token t :: rest => congrArg (f t :: ·) (leavesBelow_mapChildren f rest)
  | .node n :: rest => by
    rw [mapChildren, leavesBelow, leavesBelow, leaves_mapTokens f n,
      leavesBelow_mapChildren f rest, List.map_append]

end

end Node

/-! ### Open nodes -/

namespace OpenNode

variable {start stop middle : Nat} {n n' : OpenNode} {outer : List OpenNode}

/-- A node that could be closed where a child starts can be closed where the child stops. -/
theorem spansNested_push {child : Element Lexeme (Node Lexeme)}
    (h : (n.close middle).SpansNested Lexeme.span)
    (hstart : middle ≤ (child.span Lexeme.span).start)
    (hle : (child.span Lexeme.span).start ≤ (child.span Lexeme.span).stop)
    (hchild : ∀ m, child.node? = some m → m.SpansNested Lexeme.span) :
    ((n.push child).close (child.span Lexeme.span).stop).SpansNested Lexeme.span := by
  obtain ⟨hcovers, hbelow⟩ := Node.spansNested_iff.1 h
  rw [Node.spansNested_iff]
  constructor
  · show Span.Covers _ ((n.children ++ [child]).map _)
    rw [List.map_append]
    exact hcovers.concat hstart hle
  · intro m hm
    obtain ⟨element, helement, hnode⟩ := List.mem_filterMap.1 hm
    rcases List.mem_append.1 helement with hold | hnew
    · exact hbelow m (List.mem_filterMap.2 ⟨element, hold, hnode⟩)
    · rw [List.mem_singleton.1 hnew] at hnode
      exact hchild m hnode

/-- A node without children can be closed where it starts. -/
theorem spansNested_close_empty (h : n.children = []) :
    (n.close n.start).SpansNested Lexeme.span := by
  rw [Node.spansNested_iff]
  constructor
  · show Span.Covers _ (n.children.map _)
    rw [h]
    exact .nil (Nat.le_refl _)
  · show ∀ m ∈ n.children.filterMap Element.node?, _
    rw [h]
    exact fun _ hm => absurd hm List.not_mem_nil

/-- The node could be closed at `stop`, and each of the nodes around it where the one in it starts;
the outermost starts with the source. -/
def Chain (stop : Nat) (n : OpenNode) : List OpenNode → Prop
  | [] => (n.close stop).SpansNested Lexeme.span ∧ n.start = 0
  | parent :: outer => (n.close stop).SpansNested Lexeme.span ∧ Chain n.start parent outer

namespace Chain

theorem close (h : Chain stop n outer) : (n.close stop).SpansNested Lexeme.span := by
  cases outer with
  | nil => exact h.1
  | cons parent outer => exact h.1

/-- The innermost node can be changed, as long as it starts where it did. -/
theorem replace (h : Chain middle n outer) (hstart : n'.start = n.start)
    (hclose : (n'.close stop).SpansNested Lexeme.span) : Chain stop n' outer := by
  cases outer with
  | nil => exact ⟨hclose, hstart.trans h.2⟩
  | cons parent outer =>
    refine ⟨hclose, ?_⟩
    rw [hstart]
    exact h.2

theorem pushToken {span : Span} (h : Chain middle n outer) (kind : TokenKind)
    (hstart : middle ≤ span.start) (hle : span.start ≤ span.stop) :
    Chain span.stop (n.push (.token ⟨kind, span⟩)) outer :=
  h.replace rfl (spansNested_push h.close hstart hle fun _ hm => nomatch hm)

/-- The innermost node can be closed and becomes a child of the one around it. -/
theorem pushNode {parent : OpenNode} (h : Chain stop n (parent :: outer)) :
    Chain stop (parent.push (.node (n.close stop))) outer := by
  obtain ⟨hclose, houter⟩ := h
  have hle : n.start ≤ stop := (Node.spansNested_iff.1 hclose).1.le
  refine houter.replace rfl (spansNested_push houter.close (Nat.le_refl _) hle ?_)
  intro m hm
  cases hm
  exact hclose

/-- Closing all open nodes gives a tree whose spans are nested and whose root covers the source. -/
theorem closeAll (h : Chain stop n outer) :
    (n.closeAll stop outer).SpansNested Lexeme.span ∧ (n.closeAll stop outer).span = ⟨0, stop⟩ := by
  induction outer generalizing n with
  | nil => exact ⟨h.1, congrArg (Span.mk · stop) h.2⟩
  | cons parent outer ih => exact ih h.pushNode

end Chain

/-- The tokens that stand in the node so far. -/
def lexemes (n : OpenNode) : List Lexeme := Node.leavesBelow n.children

theorem lexemes_push (n : OpenNode) (child : Element Lexeme (Node Lexeme)) :
    (n.push child).lexemes = n.lexemes ++ Node.leavesBelow [child] :=
  Node.leavesBelow_append _ _

theorem lexemes_pushNode (parent n : OpenNode) (stop : Nat) :
    (parent.push (.node (n.close stop))).lexemes = parent.lexemes ++ n.lexemes := by
  rw [lexemes_push]
  exact congrArg (parent.lexemes ++ ·) (List.append_nil _)

/-- Closing all open nodes keeps their tokens, those of the outer nodes first. -/
theorem leaves_closeAll (stop : Nat) (n : OpenNode) (outer : List OpenNode) :
    (n.closeAll stop outer).leaves = outer.reverse.flatMap lexemes ++ n.lexemes := by
  induction outer generalizing n with
  | nil => rfl
  | cons parent outer ih =>
    rw [closeAll, ih, lexemes_pushNode, List.reverse_cons, List.flatMap_append,
      List.flatMap_singleton, List.append_assoc]

end OpenNode

/-! ### What calls tell -/

/-- Texts of which the first is not empty are not empty when joined. -/
theorem intercalate_ne_empty {sep first : String} (h : first ≠ "") (rest : List String) :
    sep.intercalate (first :: rest) ≠ "" := by
  cases rest with
  | nil =>
    rw [String.intercalate_singleton]
    exact h
  | cons second rest =>
    rw [String.intercalate_cons_cons, Ne, String.append_eq_empty_iff, String.append_eq_empty_iff]
    exact fun hempty => h hempty.1.1

/-- The text that a call tells. -/
def Call.text? : Call → Option String
  | .token _ text => some text
  | _ => none

namespace Builder

variable {b : Builder}

/-- The token that a call tells, with the span that is answered. -/
def told? (b : Builder) : Call → Option (TokenKind × String × Span)
  | .token kind text => some (kind, text, (b.token kind text).1)
  | _ => none

/-- The tokens that calls tell, each with the span that is answered. -/
def told (b : Builder) : List Call → List (TokenKind × String × Span)
  | [] => []
  | call :: calls => (b.told? call).toList ++ (b.perform call).told calls

/-! ### The source -/

/-- Nothing but a token is written to the source. -/
theorem text_perform (b : Builder) {call : Call} (h : call.text? = none) :
    (b.perform call).text = b.text := by
  cases call with
  | token kind text => cases h
  | finishNode =>
    show b.finishNode.text = b.text
    rw [finishNode]
    cases b.enclosing <;> rfl
  | _ => rfl

/-- The source only grows. -/
theorem exists_text_perform (b : Builder) (call : Call) :
    ∃ more, (b.perform call).text = b.text ++ more := by
  cases call with
  | token kind text => exact (Adds.token b kind text).text
  | _ => exact ⟨"", by rw [text_perform b rfl, String.append_empty]⟩

theorem exists_text_run (b : Builder) (calls : List Call) :
    ∃ more, (b.run calls).text = b.text ++ more := by
  induction calls generalizing b with
  | nil => exact ⟨"", String.append_empty.symm⟩
  | cons call calls ih =>
    obtain ⟨first, hfirst⟩ := b.exists_text_perform call
    obtain ⟨rest, hrest⟩ := ih (b.perform call)
    exact ⟨first ++ rest, by rw [← String.append_assoc, ← hfirst]; exact hrest⟩

/-- A token's text stands in the source at the span that is answered. -/
theorem cut?_token (b : Builder) (kind : TokenKind) (text : String) :
    cut? (b.token kind text).1.start (b.token kind text).1.stop (b.token kind text).2.text =
      some text :=
  cut?_eq_some_iff_append.2 ⟨_, "", String.append_empty.symm, rfl, String.utf8ByteSize_append⟩

/-- The texts that are told stand in the source at the spans that are answered. -/
theorem cut?_of_mem_told {calls : List Call} {kind : TokenKind} {text : String} {span : Span}
    (h : (kind, text, span) ∈ b.told calls) :
    cut? span.start span.stop (b.run calls).text = some text := by
  induction calls generalizing b with
  | nil => cases h
  | cons call calls ih =>
    rcases List.mem_append.1 h with hfirst | hrest
    · cases call with
      | token kind text =>
        cases List.mem_singleton.1 hfirst
        obtain ⟨more, hmore⟩ := (b.token kind text).2.exists_text_run calls
        exact (congrArg (cut? _ _) hmore).trans (cut?_append (b.cut?_token kind text) more)
      | _ => cases hfirst
    · exact ih hrest

/-- A token starts behind what was written before. -/
theorem offset_le_token (b : Builder) (kind : TokenKind) (text : String) :
    b.offset ≤ (b.token kind text).1.start := by
  show b.text.utf8ByteSize ≤ (if b.text.isEmpty then "" else b.text ++ " ").utf8ByteSize
  by_cases hempty : b.text.isEmpty
  · rw [if_pos hempty, String.isEmpty_iff.1 hempty]
  · rw [if_neg hempty, String.utf8ByteSize_append]
    exact Nat.le_add_right _ _

/-- A text that is told goes behind the source with a space between, unless the source is empty. -/
theorem text_token (b : Builder) (kind : TokenKind) (text : String) :
    (b.token kind text).2.text = if b.text.isEmpty then text else b.text ++ " " ++ text := by
  rw [token]
  by_cases hempty : b.text.isEmpty
  · simp only [if_pos hempty, String.empty_append]
  · simp only [if_neg hempty]

/-- **The source is the texts that were told, with single spaces between**, but that empty texts at
the front leave nothing. -/
theorem text_run (calls : List Call) :
    (Builder.empty.run calls).text =
      " ".intercalate ((calls.filterMap Call.text?).dropWhile String.isEmpty) := by
  induction calls using List.reverseRecOn with
  | nil => rfl
  | append_singleton calls call ih =>
    have hrun : Builder.empty.run (calls ++ [call]) = (Builder.empty.run calls).perform call :=
      run_append _ calls [call]
    rw [hrun, List.filterMap_append]
    cases call with
    | token kind text =>
      show ((Builder.empty.run calls).token kind text).2.text =
        " ".intercalate ((calls.filterMap Call.text? ++ [text]).dropWhile String.isEmpty)
      rw [text_token, List.dropWhile_append, ih]
      cases hshown : (calls.filterMap Call.text?).dropWhile String.isEmpty with
      | nil =>
        show text = " ".intercalate ([text].dropWhile String.isEmpty)
        by_cases htext : text.isEmpty
        · rw [List.dropWhile_cons_of_pos htext, String.isEmpty_iff.1 htext]
          rfl
        · rw [List.dropWhile_cons_of_neg htext, String.intercalate_singleton]
      | cons first rest =>
        have hfirst : first ≠ "" := by
          have hhead := List.head?_dropWhile_not String.isEmpty (calls.filterMap Call.text?)
          rw [hshown] at hhead
          exact fun hempty => Bool.false_ne_true (hhead.symm.trans (String.isEmpty_iff.2 hempty))
        have hshows : ¬(first :: rest).isEmpty = true := Bool.false_ne_true
        rw [if_neg (mt String.isEmpty_iff.1 (intercalate_ne_empty hfirst rest)), if_neg hshows,
          String.intercalate_append_of_ne_nil (List.cons_ne_nil _ _) (List.cons_ne_nil _ _),
          String.intercalate_singleton]
    | _ =>
      show _ = " ".intercalate ((calls.filterMap Call.text? ++ []).dropWhile String.isEmpty)
      rw [List.append_nil, text_perform _ rfl, ih]

/-! ### The tokens -/

/-- The tokens told so far, in the order of the source. -/
def lexemes (b : Builder) : List Lexeme :=
  b.enclosing.reverse.flatMap OpenNode.lexemes ++ b.current.lexemes

/-- A call adds the token that it tells. -/
theorem lexemes_perform (b : Builder) (call : Call) :
    (b.perform call).lexemes =
      b.lexemes ++ (b.told? call).toList.map fun (kind, _, span) => ⟨kind, span⟩ := by
  cases call with
  | token kind text =>
    show b.enclosing.reverse.flatMap _ ++ (b.current.push _).lexemes = _
    rw [OpenNode.lexemes_push, ← List.append_assoc]
    rfl
  | diagnostic d => exact (List.append_nil _).symm
  | startNode kind =>
    show (b.current :: b.enclosing).reverse.flatMap _ ++ [] = b.lexemes ++ []
    rw [List.reverse_cons, List.flatMap_append, List.flatMap_singleton]
    rfl
  | finishNode =>
    show b.finishNode.lexemes = b.lexemes ++ []
    rw [List.append_nil, finishNode]
    cases henclosing : b.enclosing with
    | nil => rfl
    | cons parent outer =>
      simp only [lexemes]
      rw [henclosing, OpenNode.lexemes_pushNode, List.reverse_cons, List.flatMap_append,
        List.flatMap_singleton, List.append_assoc]

theorem lexemes_run (b : Builder) (calls : List Call) :
    (b.run calls).lexemes = b.lexemes ++ (b.told calls).map fun (kind, _, span) => ⟨kind, span⟩ := by
  induction calls generalizing b with
  | nil => exact (List.append_nil _).symm
  | cons call calls ih =>
    show ((b.perform call).run calls).lexemes = _
    rw [ih, lexemes_perform, told, List.map_append, List.append_assoc]

/-! ### The open nodes -/

/-- The open nodes could be closed as they are nested, the innermost where the source ends. -/
def InOrder (b : Builder) : Prop := b.current.Chain b.offset b.enclosing

theorem inOrder_empty : Builder.empty.InOrder :=
  ⟨OpenNode.spansNested_close_empty rfl, rfl⟩

theorem InOrder.perform (h : b.InOrder) (call : Call) : (b.perform call).InOrder := by
  cases call with
  | startNode kind => exact ⟨OpenNode.spansNested_close_empty rfl, h⟩
  | token kind text =>
    have hstop : (b.token kind text).2.offset = (b.token kind text).1.stop :=
      String.utf8ByteSize_append
    have hle : (b.token kind text).1.start ≤ (b.token kind text).1.stop := Nat.le_add_right _ _
    show OpenNode.Chain (b.token kind text).2.offset
      (b.current.push (.token ⟨kind, (b.token kind text).1⟩)) b.enclosing
    rw [hstop]
    exact h.pushToken kind (b.offset_le_token kind text) hle
  | diagnostic d =>
    obtain ⟨hcovers, hbelow⟩ := Node.spansNested_iff.1 h.close
    exact h.replace rfl (Node.spansNested_iff.2 ⟨hcovers, hbelow⟩)
  | finishNode =>
    show b.finishNode.InOrder
    rw [finishNode]
    cases henclosing : b.enclosing with
    | nil => exact h
    | cons parent outer =>
      rw [InOrder, henclosing] at h
      exact h.pushNode

theorem InOrder.run (h : b.InOrder) (calls : List Call) : (b.run calls).InOrder := by
  induction calls generalizing b with
  | nil => exact h
  | cons call calls ih => exact ih (h.perform call)

end Builder

/-! ### The finished tree -/

/-- **The tree that calls build agrees with its source**, whatever calls they are, when the source
is within the limit.  Its tokens are those that were told, in order, with the spans that were
answered, and the text of each is the segment of the source at its span.  Every node covers its
children, one behind another, and the root covers the source.  And the source is the texts that were
told with single spaces between, but that empty texts at the front leave nothing. -/
theorem finish_run_spans (calls : List Call)
    (hsize : (Builder.empty.run calls).finish.source.text.utf8ByteSize < Segment.sizeLimit) :
    let tree := (Builder.empty.run calls).finish
    tree.root.leaves.map (fun t => (t.kind, t.text.text, t.span)) = Builder.empty.told calls ∧
      (∀ t ∈ tree.root.leaves,
        Segment.ofRange? tree.source t.span.start t.span.stop = some t.text ∧
          t.text.buffer = tree.source ∧ t.text.start = t.span.start ∧ t.text.stop = t.span.stop) ∧
      (∀ path n, tree.root.descend? path = some n →
        n.span.Covers (n.children.map (Element.span Token.span))) ∧
      tree.root.span = ⟨0, tree.source.text.utf8ByteSize⟩ ∧
      tree.source.text =
        " ".intercalate ((calls.filterMap Call.text?).dropWhile String.isEmpty) := by
  intro tree
  let b := Builder.empty.run calls
  let root := b.current.closeAll b.offset b.enclosing
  have hroot : tree.root = root.mapTokens (Lexeme.toToken tree.source) := rfl
  obtain ⟨hnested, hspan⟩ := (Builder.inOrder_empty.run calls).closeAll
  have hleaves : tree.root.leaves = (Builder.empty.told calls).map
      fun (kind, _, span) => Lexeme.toToken tree.source ⟨kind, span⟩ := by
    rw [hroot, Node.leaves_mapTokens, OpenNode.leaves_closeAll]
    show b.lexemes.map _ = _
    rw [Builder.lexemes_run, List.map_append, List.map_map]
    rfl
  -- a text that was told is cut from the source again
  have htoken {kind : TokenKind} {text : String} {span : Span}
      (h : (kind, text, span) ∈ Builder.empty.told calls) :
      ∃ segment, Segment.ofRange? tree.source span.start span.stop = some segment ∧
        segment.text = text ∧ Lexeme.toToken tree.source ⟨kind, span⟩ = ⟨kind, segment, span⟩ := by
    have hcut : cut? span.start span.stop tree.source.text = some text := Builder.cut?_of_mem_told h
    obtain ⟨segment, hsegment, htext⟩ := Segment.exists_ofRange? hcut hsize
    refine ⟨segment, hsegment, htext, ?_⟩
    rw [Lexeme.toToken, hsegment]
    rfl
  refine ⟨?_, ?_, ?_, ?_, Builder.text_run calls⟩
  · rw [hleaves, List.map_map]
    refine (List.map_congr_left ?_).trans (List.map_id _)
    rintro ⟨kind, text, span⟩ htold
    obtain ⟨segment, -, rfl, htok⟩ := htoken htold
    exact congrArg (fun t : Token => (t.kind, t.text.text, t.span)) htok
  · rw [hleaves, List.forall_mem_map]
    rintro ⟨kind, text, span⟩ htold
    obtain ⟨segment, hsegment, -, htok⟩ := htoken htold
    obtain ⟨-, -, -, hbuffer, hstart⟩ := Segment.ofRange?_eq_some_iff.1 hsegment
    simp only [htok]
    exact ⟨hsegment, hbuffer, hstart, Segment.stop_of_ofRange? hsegment⟩
  · rw [hroot]
    exact Node.SpansNested.mapTokens hnested
  · rw [hroot, Node.span_mapTokens, hspan]
    rfl

/-- Calls that close the root, and leave a rule set and a selector open.  The first empty text
leaves nothing in the source, and the second leaves a space. -/
theorem finish_run_spans_unbalanced :
    let calls : List Call := [.finishNode, .token .value "", .startNode .ruleSet, .startNode .rule,
      .token .identifier "fäde", .finishNode, .token .value "", .startNode .selector]
    let tree := (Builder.empty.run calls).finish
    tree.source.text = "fäde " ∧
      tree.root.leaves.map (fun t => (t.kind, t.text.text, t.span)) =
        [(.value, "", ⟨0, 0⟩), (.identifier, "fäde", ⟨0, 5⟩), (.value, "", ⟨6, 6⟩)] ∧
      (tree.root.descend? [0]).map (fun n => (n.kind, n.span)) = some (.ruleSet, ⟨0, 6⟩) ∧
      (⟨0, 6⟩ : Span).Covers [⟨0, 5⟩, ⟨6, 6⟩, ⟨6, 6⟩] := by
  intro calls tree
  obtain ⟨hleaves, -, hcovers, -, hsource⟩ := finish_run_spans calls (by decide)
  exact ⟨hsource.trans (by decide), hleaves.trans (by decide), by decide, hcovers [0] _ rfl⟩

end Syntax

end StyledText
