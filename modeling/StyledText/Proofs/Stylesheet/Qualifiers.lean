import StyledText.Proofs.Stylesheet.Concatenation

/-!
# The qualifiers of a selector

The parts of a selector are read from left to right with a qualifier in hand: a sign puts another in
its place, and a part takes it and leaves a descendant.  Seen from a part this means to look back:
**its qualifier is that of the last sign since the part before**, or since the start, and a
descendant where there is none.  What else stands there does not count, nor does a sign with no part
behind it.

The children are looked at one by one, so the first that cannot stand in a selector is the fault.

* `qualifierBehind` — the qualifier of a part, by looking back.
* `exists_partsOf_append` — reading children and then going on.
* `selector_ofNode_qualifiers` — what is read from a selector, whatever stands in it.
-/

namespace StyledText

open Stylesheet

namespace Syntax.Element

/-- Why a child cannot stand in a selector: it is a sign of no qualifier, or a node but no part. -/
def strayIn? (parent : NodeKind) : Element Token (Node Token) → Option Fault
  | .token t =>
    if t.kind = .childQualifier ∧ t.text.text ∉ [">", ">>", "/"] then
      some (.unknownQualifier t.text.text)
    else none
  | .node m => if m.kind = .selectorPart then none else some (.unexpectedNode parent m.kind)

/-- The qualifier that a child is the sign of. -/
def sign? : Element Token (Node Token) → Option Qualifier
  | .token t => if t.kind = .childQualifier then Qualifier.ofSign? t.text.text else none
  | .node _ => none

end Syntax.Element

namespace Stylesheet

open Syntax

/-- The qualifier of a part behind other children. -/
def qualifierBehind (before : List (Element Token (Node Token))) : Qualifier :=
  ((before.reverse.takeWhile fun c => c.node?.isNone).findSome? Element.sign?).getD .descendant

@[simp] theorem qualifierBehind_nil : qualifierBehind [] = .descendant := rfl

/-- Behind a part no sign is left. -/
@[simp] theorem qualifierBehind_concat_node (before : List (Element Token (Node Token)))
    (m : Node Token) : qualifierBehind (before ++ [.node m]) = .descendant := by
  simp [qualifierBehind, Element.node?]

/-- A sign counts before all signs in front of it. -/
@[simp] theorem qualifierBehind_concat_token (before : List (Element Token (Node Token)))
    (t : Token) : qualifierBehind (before ++ [.token t]) =
      ((Element.token t).sign?).getD (qualifierBehind before) := by
  simp only [qualifierBehind, List.reverse_append, List.reverse_singleton, List.singleton_append,
    List.takeWhile_cons, Element.node?, Option.isNone_none, if_true, List.findSome?_cons]
  cases (Element.token t).sign? <;> rfl

theorem ofSign?_eq_none_iff {sign : String} :
    Qualifier.ofSign? sign = none ↔ sign ∉ [">", ">>", "/"] := by
  rw [Qualifier.ofSign?]
  split_ifs <;> simp [*]

/-! ### One child -/

variable {parent : NodeKind} {passed before after rest : List (Element Token (Node Token))}

/-- The part that a child behind others is, or nothing. -/
def partsAt (passed : List (Element Token (Node Token))) :
    Element Token (Node Token) → List SelectorPart
  | .token _ => []
  | .node m => [SelectorPart.ofNode (qualifierBehind passed) m]

theorem length_partsAt (passed : List (Element Token (Node Token)))
    (c : Element Token (Node Token)) : (partsAt passed c).length = c.node?.toList.length := by
  cases c <;> rfl

/-- A sign of a qualifier is taken in hand, and a token that is no sign changes nothing. -/
theorem partsOf_cons_token {t : Token} (ht : (Element.token t).strayIn? parent = none)
    (q : Qualifier) :
    Selector.partsOf parent q (.token t :: rest) =
      Selector.partsOf parent ((Element.token t).sign?.getD q) rest := by
  rw [Selector.partsOf, Element.sign?]
  by_cases hkind : t.kind = .childQualifier
  · rw [if_pos hkind, if_pos hkind]
    cases hsign : Qualifier.ofSign? t.text.text with
    | none =>
      rw [Element.strayIn?, if_pos ⟨hkind, ofSign?_eq_none_iff.1 hsign⟩] at ht
      cases ht
    | some next => rfl
  · rw [if_neg hkind, if_neg hkind]
    rfl

/-- A part takes the qualifier that is in hand and leaves a descendant. -/
theorem partsOf_cons_node {m : Node Token} (hm : (Element.node m).strayIn? parent = none)
    (q : Qualifier) :
    Selector.partsOf parent q (.node m :: rest) =
      (Selector.partsOf parent .descendant rest).map (SelectorPart.ofNode q m :: ·) := by
  have hkind : m.kind = .selectorPart := by
    by_contra hkind
    rw [Element.strayIn?, if_neg hkind] at hm
    cases hm
  rw [Selector.partsOf, if_pos hkind]

/-- A child that may stand in a selector gives its part, and what is in hand behind it is the
qualifier that is found by looking back. -/
theorem partsOf_cons_of_sound {c : Element Token (Node Token)} (hc : c.strayIn? parent = none) :
    Selector.partsOf parent (qualifierBehind passed) (c :: rest) =
      (Selector.partsOf parent (qualifierBehind (passed ++ [c])) rest).map
        (partsAt passed c ++ ·) := by
  cases c with
  | token t =>
    rw [partsOf_cons_token hc, qualifierBehind_concat_token]
    cases Selector.partsOf parent _ rest <;> rfl
  | node m =>
    rw [partsOf_cons_node hc, qualifierBehind_concat_node]
    rfl

/-- A child that cannot stand in a selector is the fault, whatever is in hand. -/
theorem partsOf_cons_of_stray {c : Element Token (Node Token)} {fault : Fault} {q : Qualifier}
    (hc : c.strayIn? parent = some fault) :
    Selector.partsOf parent q (c :: rest) = .error fault := by
  cases c with
  | token t =>
    rw [Element.strayIn?] at hc
    split_ifs at hc with hstray
    cases hc
    rw [Selector.partsOf, if_pos hstray.1, ofSign?_eq_none_iff.2 hstray.2]
  | node m =>
    rw [Element.strayIn?] at hc
    split_ifs at hc with hkind
    cases hc
    rw [Selector.partsOf, if_neg hkind]

/-! ### Children in a row -/

/-- Children that may stand in a selector give a part for each node among them, and then reading
goes on with the qualifier that is found by looking back. -/
theorem exists_partsOf_append (passed : List (Element Token (Node Token)))
    (hbefore : ∀ c ∈ before, c.strayIn? parent = none) :
    ∃ parts : List SelectorPart, parts.length = (before.filterMap Element.node?).length ∧
      ∀ after, Selector.partsOf parent (qualifierBehind passed) (before ++ after) =
        (Selector.partsOf parent (qualifierBehind (passed ++ before)) after).map (parts ++ ·) := by
  induction before generalizing passed with
  | nil =>
    refine ⟨[], rfl, fun after => ?_⟩
    rw [List.nil_append, List.append_nil]
    cases Selector.partsOf parent (qualifierBehind passed) after <;> rfl
  | cons c before ih =>
    obtain ⟨hc, hrest⟩ := List.forall_mem_cons.1 hbefore
    obtain ⟨parts, hlength, hparts⟩ := ih (passed ++ [c]) hrest
    refine ⟨partsAt passed c ++ parts, ?_, fun after => ?_⟩
    · rw [List.length_append, hlength, length_partsAt]
      cases c with
      | token t => simp [List.filterMap_cons, Element.node?]
      | node m => simp [Element.node?, Nat.add_comm]
    · rw [List.cons_append, partsOf_cons_of_sound hc, hparts after, List.append_assoc,
        List.singleton_append]
      cases Selector.partsOf parent (qualifierBehind (passed ++ c :: before)) after with
      | error e => rfl
      | ok ps => exact congrArg Except.ok (List.append_assoc ..).symm

/-- The first child that cannot stand in a selector is the fault. -/
theorem partsOf_of_findSome?_eq_some {children : List (Element Token (Node Token))} {fault : Fault}
    (h : children.findSome? (Element.strayIn? parent) = some fault) :
    Selector.partsOf parent .descendant children = .error fault := by
  obtain ⟨before, c, after, rfl, hc, hbefore⟩ := List.findSome?_eq_some_iff.1 h
  obtain ⟨parts, -, hparts⟩ := exists_partsOf_append [] hbefore
  have hread := hparts (c :: after)
  rw [partsOf_cons_of_stray hc] at hread
  exact hread

/-- Children that may stand in a selector are read, to a part for each node among them. -/
theorem partsOf_of_sound {children : List (Element Token (Node Token))}
    (hsound : ∀ c ∈ children, c.strayIn? parent = none) :
    ∃ parts : List SelectorPart, Selector.partsOf parent .descendant children = .ok parts ∧
      parts.length = (children.filterMap Element.node?).length := by
  obtain ⟨parts, hlength, hparts⟩ := exists_partsOf_append [] hsound
  refine ⟨parts, ?_, hlength⟩
  have hread := hparts []
  rw [List.append_nil] at hread
  rw [← qualifierBehind_nil, hread]
  exact congrArg Except.ok (List.append_nil parts)

/-- A part has the number of nodes in front of it, and the qualifier that is found by looking
back. -/
theorem getElem?_of_partsOf {m : Node Token} {parts : List SelectorPart}
    (hsound : ∀ c ∈ before ++ .node m :: after, c.strayIn? parent = none)
    (hread : Selector.partsOf parent .descendant (before ++ .node m :: after) = .ok parts) :
    parts[(before.filterMap Element.node?).length]? =
      some (SelectorPart.ofNode (qualifierBehind before) m) := by
  obtain ⟨hbefore, hm⟩ := List.forall_mem_append.1 hsound
  obtain ⟨front, hlength, hfront⟩ := exists_partsOf_append [] hbefore
  have hread' := hfront (.node m :: after)
  rw [qualifierBehind_nil, hread, List.nil_append,
    partsOf_cons_of_sound (List.forall_mem_cons.1 hm).1] at hread'
  cases hrest : Selector.partsOf parent (qualifierBehind (before ++ [.node m])) after with
  | error e =>
    rw [hrest] at hread'
    cases hread'
  | ok ps =>
    rw [hrest] at hread'
    cases hread'
    rw [List.getElem?_append_right (Nat.le_of_eq hlength), hlength, Nat.sub_self]
    rfl

/-! ### What does not count -/

/-- What is read alike from every qualifier on is read alike behind other children. -/
theorem partsOf_append_congr {after' : List (Element Token (Node Token))}
    (h : ∀ q, Selector.partsOf parent q after = Selector.partsOf parent q after') (q : Qualifier) :
    Selector.partsOf parent q (before ++ after) = Selector.partsOf parent q (before ++ after') := by
  induction before generalizing q with
  | nil => exact h q
  | cons c before ih =>
    cases c with
    | token t => simp only [List.cons_append, Selector.partsOf, ih]
    | node m => simp only [List.cons_append, Selector.partsOf, ih]

/-- A token that is no sign does not count. -/
theorem partsOf_append_token {t : Token} (hkind : t.kind ≠ .childQualifier) (q : Qualifier) :
    Selector.partsOf parent q (before ++ .token t :: after) =
      Selector.partsOf parent q (before ++ after) :=
  partsOf_append_congr (fun q => by rw [Selector.partsOf, if_neg hkind]) q

/-- Tokens that may stand in a selector give no parts. -/
theorem partsOf_tokens {behind : List (Element Token (Node Token))}
    (hbehind : ∀ c ∈ behind, c.node? = none ∧ c.strayIn? parent = none) (q : Qualifier) :
    Selector.partsOf parent q behind = .ok [] := by
  induction behind generalizing q with
  | nil => rfl
  | cons c behind ih =>
    obtain ⟨⟨hnode, hc⟩, hrest⟩ := List.forall_mem_cons.1 hbehind
    cases c with
    | token t => rw [partsOf_cons_token hc, ih hrest]
    | node m => cases hnode

/-- Signs with no part behind them do not count. -/
theorem partsOf_append_tokens {behind : List (Element Token (Node Token))}
    (hbehind : ∀ c ∈ behind, c.node? = none ∧ c.strayIn? parent = none) (q : Qualifier) :
    Selector.partsOf parent q (before ++ behind) = Selector.partsOf parent q before := by
  calc Selector.partsOf parent q (before ++ behind)
      = Selector.partsOf parent q (before ++ []) := partsOf_append_congr (partsOf_tokens hbehind) q
    _ = Selector.partsOf parent q before := by rw [List.append_nil]

/-- **The qualifier of a part is that of the last sign since the part before it.**  If a child of a
node cannot stand in a selector, the first such is the fault.  Otherwise the selector has one part
for each node, in order, each with the qualifier that is found by looking back.  Tokens that are no
signs, and signs of qualifiers behind the last part, change nothing. -/
theorem selector_ofNode_qualifiers (n : Node Token) :
    (∀ fault, n.children.findSome? (Element.strayIn? n.kind) = some fault →
        Selector.ofNode n = .error fault) ∧
      (n.children.findSome? (Element.strayIn? n.kind) = none →
        ∃ s, Selector.ofNode n = .ok s ∧ s.parts.length = n.nodes.length ∧
          ∀ before m after, n.children = before ++ .node m :: after →
            s.parts[(before.filterMap Element.node?).length]? =
              some (SelectorPart.ofNode (qualifierBehind before) m)) ∧
      (∀ before t after, n.children = before ++ .token t :: after → t.kind ≠ .childQualifier →
        Selector.ofNode n = Selector.ofNode (n.withChildren (before ++ after))) ∧
      ∀ before behind, n.children = before ++ behind →
        (∀ c ∈ behind, c.node? = none ∧ c.strayIn? n.kind = none) →
          Selector.ofNode n = Selector.ofNode (n.withChildren before) := by
  refine ⟨fun fault hstray => ?_, fun hsound => ?_, fun before t after hchildren hkind => ?_,
    fun before behind hchildren hbehind => ?_⟩
  · rw [Selector.ofNode, partsOf_of_findSome?_eq_some hstray]
    rfl
  · have hsound := List.findSome?_eq_none_iff.1 hsound
    obtain ⟨parts, hread, hlength⟩ := partsOf_of_sound hsound
    refine ⟨⟨parts⟩, by rw [Selector.ofNode, hread]; rfl, hlength, ?_⟩
    intro before m after hchildren
    rw [hchildren] at hsound hread
    exact getElem?_of_partsOf hsound hread
  · rw [Selector.ofNode, hchildren, partsOf_append_token hkind]
    rfl
  · rw [Selector.ofNode, hchildren, partsOf_append_tokens hbehind]
    rfl

/-- Two signs before the first part, a star before the second and a sign behind it; then a sign of
no qualifier in front of a node that is no part either. -/
theorem selector_ofNode_qualifiers_two :
    let token (kind : TokenKind) (text : String) : Element Token (Node Token) :=
      .token { kind, text := .whole ⟨0, text⟩ }
    let part (name : String) : Element Token (Node Token) :=
      .node { kind := .selectorPart, children := [token .typeName name] }
    let n : Node Token :=
      { kind := .selector, children := [token .childQualifier ">", token .childQualifier "/",
          part "Row", token .star "*", part "Cell", token .childQualifier ">>"] }
    let stray := n.withChildren (n.children ++
      [token .childQualifier "~", .node { kind := .rule }])
    n.children.findSome? (Element.strayIn? .selector) = none ∧
      (∃ s, Selector.ofNode n = .ok s ∧ s.parts.length = 2 ∧
        s.parts[0]? = some { qualifier := .logicalChild, element := some "Row" } ∧
        s.parts[1]? = some { element := some "Cell" }) ∧
      stray.children.findSome? (Element.strayIn? .selector) = some (.unknownQualifier "~") ∧
      Selector.ofNode stray = .error (.unknownQualifier "~") := by
  intro token part n stray
  have hsound : n.children.findSome? (Element.strayIn? .selector) = none := rfl
  have hstray : stray.children.findSome? (Element.strayIn? .selector) =
      some (.unknownQualifier "~") := rfl
  obtain ⟨s, hs, hlength, hparts⟩ := (selector_ofNode_qualifiers n).2.1 hsound
  exact ⟨hsound, ⟨s, hs, hlength, hparts [_, _] _ _ rfl, hparts [_, _, _, _] _ _ rfl⟩, hstray,
    (selector_ofNode_qualifiers stray).1 _ hstray⟩

end Stylesheet

end StyledText
