import StyledText.Proofs.Stylesheet.Entries

/-!
# Transitions among the rules

A rule set keeps its transitions among its rules, and `RuleSet.transitions` finds them again by the
name of their property.  **A rule that gives the property `transition` a value is found too**,
though it is no transition: all that tells it is that it has a value and no arguments.  A rule for a
property of that name that another type owns is not found.

* `Node.transitionRules` — what the transitions of a rule set are kept as.
* `isTransition_iff_of_ofNode` — which rules are found.
* `RuleSet.transitions_eq_iff` — the transitions of a rule set are found, and nothing else exactly
  when no rule assigns `transition`.
-/

namespace StyledText

open Syntax Stylesheet

/-- What the transitions directly below a node are kept as: the arguments of each, whether it is
important, and no value. -/
def Syntax.Node.transitionRules (n : Node Token) : List Rule :=
  (n.nodes.filter fun m => m.kind == .transition).map fun m =>
    { property := { name := "transition" }, value := "", important := m.hasToken .important
      arguments := m.textsOf .argument }

/-- Whether a node is a rule for the property `transition` that no other type owns. -/
def Syntax.Node.assignsTransition (n : Node Token) : Bool :=
  n.kind == .rule && (n.node? .propertyName).any fun p =>
    p.text? .typeName == none && p.text? .identifier == some "transition"

/-- Whether a node is a transition or a rule that is taken for one. -/
def Syntax.Node.foundAsTransition (n : Node Token) : Bool :=
  n.kind == .transition || n.assignsTransition

namespace Stylesheet

variable {n : Node Token}

/-- What is found for a node: the arguments of a transition, or the value of a rule. -/
structure Rule.IsFoundFor (n : Node Token) (r : Rule) : Prop where
  property : r.property = { owner := none, name := "transition" }
  important : r.important = n.hasToken .important
  of_transition : n.kind = .transition → r.value = "" ∧ r.arguments = n.textsOf .argument
  of_rule : n.kind = .rule → n.text? .value = some r.value ∧ r.arguments = []

/-- For a transition only what it is kept as can be found. -/
theorem Rule.IsFoundFor.eq_of_transition {r : Rule} (h : r.IsFoundFor n)
    (hkind : n.kind = .transition) :
    { property := { name := "transition" }, value := "", important := n.hasToken .important
      arguments := n.textsOf .argument } = r := by
  obtain ⟨hvalue, harguments⟩ := h.of_transition hkind
  rw [← h.property, ← h.important, ← hvalue, ← harguments]

/-! ### One rule -/

theorem PropertyName.inNode_eq_transition_iff {property : PropertyName}
    (h : PropertyName.inNode n = .ok property) :
    property = .transition ↔ (n.node? .propertyName).any (fun p =>
      p.text? .typeName == none && p.text? .identifier == some "transition") = true := by
  obtain ⟨p, hp, hproperty⟩ := bind_eq_ok_iff.1 h
  obtain ⟨name, hname, rfl⟩ := map_eq_ok_iff.1 hproperty
  rw [requireNode_eq_ok_iff] at hp
  rw [requireText_eq_ok_iff] at hname
  simp [hp, hname, PropertyName.transition]

/-- A rule or transition that is read has the importance and the value or the arguments of its node;
it is found when it is a transition or assigns one. -/
theorem isTransition_iff_of_ofNode {parent : NodeKind} {r : Rule}
    (h : RuleSetItem.ofNode parent n = .ok (.rule r)) :
    (r.isTransition = true ↔ n.foundAsTransition = true) ∧
      (r.isTransition = true → r.IsFoundFor n) := by
  rw [RuleSetItem.ofNode] at h
  cases hkind : n.kind <;> simp [hkind, map_eq_ok_iff] at h
  case transition =>
    subst h
    refine ⟨by simp [Node.foundAsTransition, hkind, Rule.isTransition, Rule.ofTransition],
      fun _ => ⟨rfl, rfl, fun _ => ⟨rfl, rfl⟩, by simp [hkind]⟩⟩
  case rule =>
    obtain ⟨property, hproperty, h⟩ := bind_eq_ok_iff.1 h
    obtain ⟨value, hvalue, h⟩ := bind_eq_ok_iff.1 h
    cases h
    have hfound : (property == .transition) = true ↔ n.foundAsTransition = true := by
      rw [beq_iff_eq, PropertyName.inNode_eq_transition_iff hproperty]
      simp [Node.foundAsTransition, Node.assignsTransition, hkind]
    exact ⟨hfound, fun hname => ⟨eq_of_beq hname, rfl, by simp [hkind],
      fun _ => ⟨requireText_eq_ok_iff.1 hvalue, rfl⟩⟩⟩

/-! ### All rules -/

/-- The rules that are found are those of the nodes that are found, in order. -/
theorem RuleSet.forall₂_transitions {s : RuleSet} (h : RuleSet.ofNode n = .ok s) :
    List.Forall₂ (fun m r => r.IsFoundFor m) (n.nodes.filter Node.foundAsTransition)
      s.transitions := by
  -- what is found is a rule or a transition
  have hnodes : (n.nodesIn .ruleSet .rules).filter Node.foundAsTransition =
      n.nodes.filter Node.foundAsTransition := by
    rw [Node.nodesIn, List.filter_filter]
    refine List.filter_congr fun m _ => ?_
    cases hkind : m.kind <;>
      simp [Node.foundAsTransition, Node.assignsTransition, hkind, ChildGroup.ofNode]
  have hfound : List.Forall₂ (fun m r => RuleSetItem.ofNode n.kind m = .ok (.rule r))
      (n.nodes.filter Node.foundAsTransition) s.transitions := by
    rw [← hnodes]
    refine List.rel_filter ?_ (RuleSet.lists_of_ofNode h).rules
    exact fun m r hm => (isTransition_iff_of_ofNode hm).1.symm
  have hboth := (List.forall₂_and_left _ _).2
    ⟨fun m hm => (List.mem_filter.1 hm).2, hfound⟩
  exact hboth.imp fun m r hm =>
    (isTransition_iff_of_ofNode hm.2).2 ((isTransition_iff_of_ofNode hm.2).1.2 hm.1)

/-- **The transitions of a rule set are found again, and so are the rules for `transition`.**  One
rule is found for each such node, in order; these are the transitions exactly when no rule in the
rule set assigns `transition`. -/
theorem RuleSet.transitions_eq_iff {s : RuleSet} (h : RuleSet.ofNode n = .ok s) :
    List.Forall₂ (fun m r => r.IsFoundFor m) (n.nodes.filter Node.foundAsTransition)
        s.transitions ∧
      (s.transitions = n.transitionRules ↔ ∀ m ∈ n.nodes, m.assignsTransition = false) := by
  have hfound := RuleSet.forall₂_transitions h
  refine ⟨hfound, fun heq => ?_, fun hnone => ?_⟩
  · -- the transitions are among the nodes found, and as many
    have hsub : (n.nodes.filter fun m => m.kind == .transition).Sublist
        (n.nodes.filter Node.foundAsTransition) := by
      refine List.monotone_filter_right _ fun m hm => ?_
      rw [Node.foundAsTransition, hm, Bool.true_or]
    have hlength : (n.nodes.filter fun m => m.kind == .transition).length =
        (n.nodes.filter Node.foundAsTransition).length := by
      rw [hfound.length_eq, heq, Node.transitionRules, List.length_map]
    have hsame := hsub.eq_of_length hlength
    intro m hm
    by_contra hassigns
    rw [Bool.not_eq_false] at hassigns
    have hmem : m ∈ n.nodes.filter Node.foundAsTransition :=
      List.mem_filter.2 ⟨hm, by rw [Node.foundAsTransition, hassigns, Bool.or_true]⟩
    rw [← hsame] at hmem
    have hkind : m.kind = .transition := by simpa using (List.mem_filter.1 hmem).2
    rw [Node.assignsTransition, hkind] at hassigns
    cases hassigns
  · have hnodes : n.nodes.filter Node.foundAsTransition =
        n.nodes.filter fun m => m.kind == .transition :=
      List.filter_congr fun m hm => by rw [Node.foundAsTransition, hnone m hm, Bool.or_false]
    rw [hnodes] at hfound
    have hkind : ∀ m ∈ n.nodes.filter fun m => m.kind == .transition, m.kind = .transition :=
      fun m hm => by simpa using (List.mem_filter.1 hm).2
    have hboth := (List.forall₂_and_left _ _).2 ⟨hkind, hfound⟩
    have hsame : List.Forall₂ (· = ·) n.transitionRules s.transitions :=
      List.forall₂_map_left_iff.2 (hboth.imp fun m r hm => hm.2.eq_of_transition hm.1)
    rw [List.forall₂_eq_eq_eq] at hsame
    exact hsame.symm

/-- A transition, and a rule for a property `transition` that another type owns. -/
theorem RuleSet.transitions_eq_iff_attached :
    let token (kind : TokenKind) (text : String) : Element Token (Node Token) :=
      .token { kind, text := .whole ⟨0, text⟩ }
    let property : Node Token :=
      { kind := .propertyName,
        children := [token .typeName "Grid", token .identifier "transition"] }
    let transition : Node Token :=
      { kind := .transition, children := [token .argument "width", token .argument "2"] }
    let n : Node Token :=
      { kind := .ruleSet, children := [
          .node { kind := .rule, children := [.node property, token .value "1"] },
          .node transition] }
    (∀ m ∈ n.nodes, m.assignsTransition = false) ∧
      ∃ s, RuleSet.ofNode n = .ok s ∧ s.rules.length = 2 ∧
        s.transitions =
          [{ property := { name := "transition" }, arguments := ["width", "2"] }] := by
  intro token property transition n
  have hnone : ∀ m ∈ n.nodes, m.assignsTransition = false := by
    intro m hm
    simp only [n, Node.nodes, List.filterMap_cons, Element.node?, List.filterMap_nil, List.mem_cons,
      List.not_mem_nil, or_false] at hm
    rcases hm with rfl | rfl <;> rfl
  exact ⟨hnone, _, rfl, rfl, (RuleSet.transitions_eq_iff (n := n) rfl).2.2 hnone⟩

/-- A rule set with a rule for `transition` and no transition: the rule is found. -/
theorem RuleSet.transitions_ne_transitionRules_assigned :
    let token (kind : TokenKind) (text : String) : Element Token (Node Token) :=
      .token { kind, text := .whole ⟨0, text⟩ }
    let property : Node Token :=
      { kind := .propertyName, children := [token .identifier "transition"] }
    let part : Node Token := { kind := .selectorPart, children := [token .typeName "Button"] }
    let n : Node Token :=
      { kind := .ruleSet, children := [
          .node { kind := .selector, children := [.node part] },
          .node { kind := .rule, children := [.node property, token .value "1"] }] }
    let tree : Tree := { root := { kind := .document, children := [.node n] }, source := ⟨0, ""⟩ }
    ∃ s, compile {} tree = .ok { ruleSets := [s] } ∧ RuleSet.ofNode n = .ok s ∧
      s.transitions = [{ property := { name := "transition" }, value := "1" }] ∧
      n.transitionRules = [] :=
  ⟨_, rfl, rfl, rfl, rfl⟩

end Stylesheet

end StyledText
