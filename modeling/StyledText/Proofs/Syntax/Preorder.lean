import Mathlib
import StyledText.Syntax.Tree

/-!
# Nodes of a tree in preorder

A node of a tree is found by its **path**, the numbers that choose among the nodes directly below on
the way down to it.  Sorted by their paths, as words are in a dictionary, the nodes of a tree are in
preorder: each stands before the nodes below it, and these stand in order.  A strictly sorted list
is known from its members, so no more need be said of preorder than `Node.IsPreorder` does.

* `Node.induction` — what holds of a node whenever it holds of the nodes directly below it holds of
  every node.
* `Node.isPreorder_preorder` — the nodes of a tree can be listed in preorder.
* `Node.allDiagnostics_eq_flatMap` — the diagnostics of a tree are those of its nodes, node by node
  in preorder.
-/

namespace StyledText.Syntax.Node

variable {τ : Type}

/-! ### Induction on trees -/

mutual

/-- What holds of a node whenever it holds of the nodes directly below holds of every node. -/
theorem induction {motive : Node τ → Prop}
    (step : ∀ n : Node τ, (∀ m ∈ n.nodes, motive m) → motive n) : ∀ n, motive n
  | ⟨_, _, children, _⟩ => step _ (inductionBelow step children)

theorem inductionBelow {motive : Node τ → Prop}
    (step : ∀ n : Node τ, (∀ m ∈ n.nodes, motive m) → motive n) :
    ∀ children : List (Element τ (Node τ)), ∀ m ∈ children.filterMap Element.node?, motive m
  | [] => fun _ hm => nomatch hm
  | .token _ :: rest => inductionBelow step rest
  | .node n :: rest => List.forall_mem_cons.2 ⟨induction step n, inductionBelow step rest⟩

end

/-! ### Preorder -/

/-- The list has all nodes with their paths, sorted by these and each once. -/
structure IsPreorder (n : Node τ) (nodes : List (List Nat × Node τ)) : Prop where
  sorted : nodes.Pairwise fun first second => first.1 < second.1
  mem_iff (path : List Nat) (m : Node τ) : (path, m) ∈ nodes ↔ n.descend? path = some m

mutual

/-- The node and all nodes below it with their paths, each before those below it. -/
def preorder : Node τ → List (List Nat × Node τ)
  | ⟨kind, span, children, diagnostics⟩ =>
    ([], ⟨kind, span, children, diagnostics⟩) :: preorderBelow 0 children

/-- The nodes in a list of children, the first of which has the number `i`, and all nodes below. -/
def preorderBelow (i : Nat) : List (Element τ (Node τ)) → List (List Nat × Node τ)
  | [] => []
  | .token _ :: rest => preorderBelow i rest
  | .node n :: rest => n.preorder.map (Prod.map (i :: ·) id) ++ preorderBelow (i + 1) rest

end

theorem preorderBelow_eq_flatMap (i : Nat) (children : List (Element τ (Node τ))) :
    preorderBelow i children = ((children.filterMap Element.node?).zipIdx i).flatMap
      fun (m, i) => m.preorder.map (Prod.map (i :: ·) id) := by
  induction children generalizing i with
  | nil => rfl
  | cons child rest ih =>
    cases child with
    | token t => rw [preorderBelow, ih, List.filterMap_cons_none rfl]
    | node n =>
      have hn : (Element.node n : Element τ (Node τ)).node? = some n := rfl
      rw [preorderBelow, ih, List.filterMap_cons_some hn, List.zipIdx_cons, List.flatMap_cons]

/-- First comes the node, then the nodes below it one by one. -/
theorem preorder_eq (n : Node τ) : n.preorder =
    ([], n) :: n.nodes.zipIdx.flatMap fun (m, i) => m.preorder.map (Prod.map (i :: ·) id) := by
  cases n with
  | mk kind span children diagnostics =>
    rw [preorder, preorderBelow_eq_flatMap]
    rfl

theorem mem_preorder_iff (n : Node τ) (path : List Nat) (m : Node τ) :
    (path, m) ∈ n.preorder ↔ n.descend? path = some m := by
  induction n using Node.induction generalizing path with
  | step n ih =>
    rw [preorder_eq, List.mem_cons, List.mem_flatMap]
    cases path with
    | nil => simp [descend?, eq_comm]
    | cons i path =>
      rw [descend?, Option.bind_eq_some_iff]
      simp only [Prod.mk.injEq, reduceCtorEq, false_and, false_or, Prod.exists,
        List.mem_zipIdx_iff_getElem?, List.mem_map, Prod.map_apply, List.cons.injEq, id]
      constructor
      · rintro ⟨child, j, hchild, below, found, hmem, ⟨rfl, rfl⟩, rfl⟩
        exact ⟨child, hchild, (ih child (List.mem_of_getElem? hchild) _).1 hmem⟩
      · rintro ⟨child, hchild, hfound⟩
        have hmem := (ih child (List.mem_of_getElem? hchild) path).2 hfound
        exact ⟨child, i, hchild, path, m, hmem, ⟨rfl, rfl⟩, rfl⟩

/-- **A tree can be listed in preorder.** -/
theorem isPreorder_preorder (n : Node τ) : n.IsPreorder n.preorder := by
  refine ⟨?_, n.mem_preorder_iff⟩
  induction n using Node.induction with
  | step n ih =>
    rw [preorder_eq, List.pairwise_cons, List.pairwise_flatMap]
    refine ⟨?_, ?_, ?_⟩
    · rintro ⟨path, m⟩ hmem
      obtain ⟨child, -, hbelow⟩ := List.mem_flatMap.1 hmem
      obtain ⟨below, -, hpath⟩ := List.mem_map.1 hbelow
      cases hpath
      exact List.nil_lt_cons _ _
    · rintro ⟨m, i⟩ hm
      rw [List.pairwise_map]
      refine (ih m (List.fst_mem_of_mem_zipIdx hm)).imp fun hlt => ?_
      exact List.cons_lt_cons_iff.2 (.inr ⟨rfl, hlt⟩)
    · -- nodes below different ones are told apart by the first number already
      have hnumbers : n.nodes.zipIdx.Pairwise fun first second => first.2 < second.2 := by
        rw [← List.pairwise_map, List.zipIdx_map_snd]
        exact List.pairwise_lt_range'
      refine hnumbers.imp fun hlt first hfirst second hsecond => ?_
      obtain ⟨_, -, rfl⟩ := List.mem_map.1 hfirst
      obtain ⟨_, -, rfl⟩ := List.mem_map.1 hsecond
      exact List.cons_lt_cons_iff.2 (.inl hlt)

/-- **The diagnostics of a tree are those of its nodes in preorder**, each node's in their order. -/
theorem allDiagnostics_eq_flatMap (n : Node τ) :
    n.allDiagnostics = n.preorder.flatMap fun placed => placed.2.diagnostics := by
  induction n using Node.induction with
  | step n ih =>
    rw [allDiagnostics_eq, preorder_eq, List.flatMap_cons, List.flatMap_assoc]
    congr 1
    calc n.nodes.flatMap allDiagnostics
        = (n.nodes.zipIdx.map Prod.fst).flatMap allDiagnostics := by rw [List.zipIdx_map_fst]
      _ = n.nodes.zipIdx.flatMap fun (m, _) => m.allDiagnostics := List.flatMap_map ..
      _ = _ := List.flatMap_congr fun (m, i) hm => by
          show m.allDiagnostics = (m.preorder.map (Prod.map (i :: ·) id)).flatMap _
          rw [ih m (List.fst_mem_of_mem_zipIdx hm), List.flatMap_map]
          rfl

end StyledText.Syntax.Node
