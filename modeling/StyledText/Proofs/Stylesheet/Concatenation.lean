import StyledText.Proofs.Stylesheet.Rejected

/-!
# Stylesheets in two parts

A stylesheet is read from the top in order and nothing is kept in mind between one item and the
next.  So of a stylesheet in two parts **the first is read as if the second were not there**, and
the second as if it stood alone: a fault of the first part is the fault of both together, whatever
comes behind it, a fault of the second counts when the first has none, and else the lists of the two
documents are joined.  The same holds of the two parts of a rule set.

* `ReadsInTurn` — what is read from two parts, given what is read from each.
* `items_append_eq_bind` — what is put together from the items of a row, for two rows.
* `compile_append` — the law for stylesheets and for rule sets.
-/

namespace StyledText

open Syntax

/-- The node with other children. -/
def Syntax.Node.withChildren {τ : Type} (n : Node τ) (children : List (Element τ (Node τ))) :
    Node τ :=
  { n with children }

/-- The tree with other children of the root. -/
def Syntax.Tree.withChildren (tree : Tree) (children : List (Element Token (Node Token))) : Tree :=
  { tree with root := tree.root.withChildren children }

/-- Two parts put together have the diagnostics of the root and of both. -/
theorem Syntax.Tree.diagnostics_withChildren_append (tree : Tree)
    (first second : List (Element Token (Node Token))) :
    (tree.withChildren (first ++ second)).diagnostics =
      (tree.withChildren first).diagnostics ++ Node.childDiagnostics second := by
  simp only [Tree.diagnostics, Tree.withChildren, Node.withChildren, Node.allDiagnostics,
    Node.childDiagnostics_eq_flatMap, List.filterMap_append, List.flatMap_append,
    List.append_assoc]

namespace Stylesheet

/-- The rule set with what two rule sets have, the one behind the other. -/
def RuleSet.append (first second : RuleSet) : RuleSet where
  selectors := first.selectors ++ second.selectors
  rules := first.rules ++ second.rules
  triggers := first.triggers ++ second.triggers

/-- The document with what two documents have, the one behind the other. -/
def Document.append (first second : Document) : Document where
  ruleSets := first.ruleSets ++ second.ruleSets
  storyboards := first.storyboards ++ second.storyboards

/-! ### Reading in turn -/

section ReadsInTurn

variable {α β ε : Type} {read : List α → Except ε β} {join : β → β → β} {first second : List α}

/-- Two parts are read one after the other: the first fault is the fault of both together, and what
is read from them is joined. -/
structure ReadsInTurn (read : List α → Except ε β) (join : β → β → β) (first second : List α) :
    Prop where
  /-- What stands behind a fault does not count. -/
  first_fault (e : ε) : read first = .error e → read (first ++ second) = .error e
  second_fault (a : β) (e : ε) :
    read first = .ok a → read second = .error e → read (first ++ second) = .error e
  joined (a b : β) :
    read first = .ok a → read second = .ok b → read (first ++ second) = .ok (join a b)

theorem ReadsInTurn.of_bind
    (h : read (first ++ second) = (read first).bind fun a => (read second).map (join a)) :
    ReadsInTurn read join first second where
  first_fault e hfirst := by
    rw [h, hfirst]
    rfl
  second_fault a e hfirst hsecond := by
    rw [h, hfirst, hsecond]
    rfl
  joined a b hfirst hsecond := by
    rw [h, hfirst, hsecond]
    rfl

/-- Two rows behind one another are read in turn. -/
theorem mapM_append_eq_bind (f : α → Except ε β) (first second : List α) :
    (first ++ second).mapM f =
      (first.mapM f).bind fun ys => (second.mapM f).map fun zs => ys ++ zs := by
  rw [List.mapM_append]
  cases first.mapM f with
  | error e => rfl
  | ok ys => cases second.mapM f <;> rfl

end ReadsInTurn

/-- What is put together from the items of a row of nodes can be put together part by part. -/
theorem items_append_eq_bind {ι β : Type} {f : Node Token → Except Fault ι} {ofItems : List ι → β}
    {join : β → β → β} (hjoin : ∀ xs ys, ofItems (xs ++ ys) = join (ofItems xs) (ofItems ys))
    (first second : List (Node Token)) :
    ((first ++ second).mapM f).map ofItems =
      ((first.mapM f).map ofItems).bind fun a => ((second.mapM f).map ofItems).map (join a) := by
  rw [mapM_append_eq_bind]
  cases first.mapM f with
  | error e => rfl
  | ok xs =>
    cases second.mapM f with
    | error e => rfl
    | ok ys => exact congrArg Except.ok (hjoin xs ys)

theorem RuleSet.ofNode_withChildren_append (n : Node Token)
    (first second : List (Element Token (Node Token))) :
    RuleSet.ofNode (n.withChildren (first ++ second)) =
      (RuleSet.ofNode (n.withChildren first)).bind fun a =>
        (RuleSet.ofNode (n.withChildren second)).map a.append := by
  have hnodes : (n.withChildren (first ++ second)).nodes =
      (n.withChildren first).nodes ++ (n.withChildren second).nodes := List.filterMap_append
  rw [RuleSet.ofNode, hnodes]
  exact items_append_eq_bind RuleSet.ofItems_append _ _

theorem Document.ofNode_withChildren_append (options : CompilerOptions) (root : Node Token)
    (first second : List (Element Token (Node Token))) :
    Document.ofNode options (root.withChildren (first ++ second)) =
      (Document.ofNode options (root.withChildren first)).bind fun a =>
        (Document.ofNode options (root.withChildren second)).map a.append := by
  have hnodes : (root.withChildren (first ++ second)).nodes =
      (root.withChildren first).nodes ++ (root.withChildren second).nodes := List.filterMap_append
  rw [Document.ofNode, hnodes]
  exact items_append_eq_bind Document.ofItems_append _ _

/-- A tree without grave diagnostics is compiled as its shape is read. -/
theorem compile_of_sound {options : CompilerOptions} {tree : Tree}
    (hsound : ∀ d ∈ tree.diagnostics, ¬options.Grave d) :
    compile options tree = (Document.ofNode options tree.root).mapError .fault := by
  rw [compile, filter_rejects_eq_nil_iff.2 hsound]
  rfl

/-- **The first fault wins and nothing behind it counts.**  Let two rows of children stand behind
one another in the root of a tree, whatever its kind, neither with a grave diagnostic.  A fault of
the first is the fault of both, a fault of the second is when the first has none, and else the
document has the rule sets and the storyboards of the first and then those of the second.  Likewise
the selectors, the rules and the triggers of a rule set whose children stand in two rows. -/
theorem compile_append (options : CompilerOptions) (tree : Tree)
    (first second : List (Element Token (Node Token)))
    (hfirst : ∀ d ∈ (tree.withChildren first).diagnostics, ¬options.Grave d)
    (hsecond : ∀ d ∈ (tree.withChildren second).diagnostics, ¬options.Grave d) :
    ReadsInTurn (fun children => compile options (tree.withChildren children)) Document.append
        first second ∧
      ∀ (n : Node Token) (first second : List (Element Token (Node Token))),
        ReadsInTurn (fun children => RuleSet.ofNode (n.withChildren children)) RuleSet.append
          first second := by
  refine ⟨.of_bind ?_, fun n first second =>
    .of_bind (RuleSet.ofNode_withChildren_append n first second)⟩
  have hboth : ∀ d ∈ (tree.withChildren (first ++ second)).diagnostics, ¬options.Grave d := by
    rw [Tree.diagnostics_withChildren_append]
    intro d hd
    rcases List.mem_append.1 hd with hd | hd
    · exact hfirst d hd
    · exact hsecond d (List.mem_append_right _ hd)
  show compile options _ = (compile options _).bind fun a => (compile options _).map a.append
  rw [compile_of_sound hfirst, compile_of_sound hsecond, compile_of_sound hboth]
  show (Document.ofNode options (tree.root.withChildren (first ++ second))).mapError _ =
    ((Document.ofNode options (tree.root.withChildren first)).mapError _).bind fun a =>
      ((Document.ofNode options (tree.root.withChildren second)).mapError _).map a.append
  rw [Document.ofNode_withChildren_append]
  cases Document.ofNode options (tree.root.withChildren first) with
  | error e => rfl
  | ok a => cases Document.ofNode options (tree.root.withChildren second) <;> rfl

/-- A keyframe in a rule set and a storyboard without a name: the one that stands first is the
fault, also behind a part that is sound, and when the root is no document and has a warning.
Without a fault the rule sets and the storyboards of both parts are there, each in their order. -/
theorem compile_append_two_faults :
    let warning : Diagnostic := { severity := .warning, code := .unexpectedToken }
    let tree : Tree := { root := { kind := .rule, diagnostics := [warning] }, source := ⟨0, ""⟩ }
    let ruleSet (child : NodeKind) : Element Token (Node Token) :=
      .node { kind := .ruleSet, children := [.node { kind := child }] }
    let storyboard (names : List String) : Element Token (Node Token) :=
      .node { kind := .storyboard,
              children := names.map fun name =>
                .token { kind := .identifier, text := .whole ⟨0, name⟩ } }
    let stray : List (Element Token (Node Token)) := [ruleSet .keyframe]
    let unnamed : List (Element Token (Node Token)) := [storyboard []]
    let fade : List (Element Token (Node Token)) := [ruleSet .transition, storyboard ["fade"]]
    let glow : List (Element Token (Node Token)) := [storyboard ["glow"], ruleSet .transition]
    let transition : RuleSet := { rules := [{ property := { name := "transition" } }] }
    (∀ part ∈ [stray, unnamed, fade, glow],
        ∀ d ∈ (tree.withChildren part).diagnostics, ¬({} : CompilerOptions).Grave d) ∧
      compile {} (tree.withChildren (stray ++ unnamed)) =
        .error (.fault (.unexpectedNode .ruleSet .keyframe)) ∧
      compile {} (tree.withChildren (unnamed ++ stray)) =
        .error (.fault (.missingToken .storyboard .identifier)) ∧
      compile {} (tree.withChildren (fade ++ stray)) =
        .error (.fault (.unexpectedNode .ruleSet .keyframe)) ∧
      compile {} (tree.withChildren (fade ++ glow)) =
        .ok { ruleSets := [transition, transition]
              storyboards := [{ name := "fade" }, { name := "glow" }] } := by
  intro warning tree ruleSet storyboard stray unnamed fade glow transition
  have hwarning : ∀ d ∈ [warning], ¬({} : CompilerOptions).Grave d := by decide
  have hsound : ∀ part ∈ [stray, unnamed, fade, glow],
      ∀ d ∈ (tree.withChildren part).diagnostics, ¬({} : CompilerOptions).Grave d := by
    intro part hpart
    simp only [List.mem_cons, List.not_mem_nil, or_false] at hpart
    rcases hpart with rfl | rfl | rfl | rfl <;> exact hwarning
  have hstray := hsound stray (.head _)
  have hunnamed := hsound unnamed (.tail _ (.head _))
  have hfade := hsound fade (.tail _ (.tail _ (.head _)))
  have hglow := hsound glow (.tail _ (.tail _ (.tail _ (.head _))))
  exact ⟨hsound,
    (compile_append {} tree _ _ hstray hunnamed).1.first_fault _ rfl,
    (compile_append {} tree _ _ hunnamed hstray).1.first_fault _ rfl,
    (compile_append {} tree _ _ hfade hstray).1.second_fault _ _ rfl rfl,
    (compile_append {} tree _ _ hfade hglow).1.joined _ _ rfl rfl⟩

end Stylesheet

end StyledText
