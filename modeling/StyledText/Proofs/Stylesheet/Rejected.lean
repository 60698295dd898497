import StyledText.Proofs.Syntax.Preorder
import StyledText.Stylesheet.Compile

/-!
# Trees that are rejected

A tree is rejected when a diagnostic anywhere in it is too grave, and **for no other reason**: what
else is wrong with the tree is not looked at before.  The error lists the grave diagnostics of the
tree in preorder of the nodes, those of one node in their order.

* `compile_eq_rejected_iff`, `compile_eq_ok_iff` — the diagnostics and the shape of a tree, one
  after the other.
* `compile_rejected_iff_grave` — when a tree is rejected, and with which diagnostics.
-/

namespace StyledText

open Syntax

/-- A diagnostic of a tree is one of a node in it. -/
theorem Syntax.Node.mem_allDiagnostics_iff {τ : Type} {n : Node τ} {d : Diagnostic} :
    d ∈ n.allDiagnostics ↔ ∃ path m, n.descend? path = some m ∧ d ∈ m.diagnostics := by
  rw [n.allDiagnostics_eq_flatMap, List.mem_flatMap]
  simp only [Prod.exists, n.mem_preorder_iff]

namespace Stylesheet

variable {options : CompilerOptions} {tree : Tree}

/-- A diagnostic with which a tree is not compiled: an error, or a warning that counts as one. -/
def CompilerOptions.Grave (options : CompilerOptions) (d : Diagnostic) : Prop :=
  d.severity = .error ∨ d.severity = .warning ∧ options.warningsAsErrors = true

instance (options : CompilerOptions) (d : Diagnostic) : Decidable (options.Grave d) :=
  inferInstanceAs (Decidable (_ ∨ _))

theorem CompilerOptions.rejects_iff {d : Diagnostic} :
    options.rejects d = true ↔ options.Grave d := by
  rw [rejects, Grave]
  cases d.severity <;> simp

/-! ### The diagnostics and the shape of a tree -/

/-- A tree is rejected with all diagnostics that the options reject, if there are any. -/
theorem compile_eq_rejected_iff {ds : List Diagnostic} :
    compile options tree = .error (.rejected ds) ↔
      ds ≠ [] ∧ ds = tree.diagnostics.filter options.rejects := by
  rw [compile]
  cases hrejected : tree.diagnostics.filter options.rejects with
  | nil =>
    -- what is left is the shape, whose faults are no rejections
    have hshape : (Document.ofNode options tree.root).mapError CompileError.fault ≠
        .error (.rejected ds) := by
      cases Document.ofNode options tree.root <;> exact nofun
    exact ⟨fun h => absurd h hshape, fun h => absurd h.2 h.1⟩
  | cons d rest =>
    constructor
    · intro h
      cases h
      exact ⟨List.cons_ne_nil d rest, rfl⟩
    · rintro ⟨-, rfl⟩
      rfl

/-- A tree is compiled when no diagnostic is rejected and its shape can be read. -/
theorem compile_eq_ok_iff {document : Document} :
    compile options tree = .ok document ↔
      tree.diagnostics.filter options.rejects = [] ∧
        Document.ofNode options tree.root = .ok document := by
  rw [compile]
  cases tree.diagnostics.filter options.rejects with
  | nil => cases Document.ofNode options tree.root <;> simp [Except.mapError]
  | cons d rest => simp

/-- No diagnostic of a tree is rejected when none is grave. -/
theorem filter_rejects_eq_nil_iff :
    tree.diagnostics.filter options.rejects = [] ↔ ∀ d ∈ tree.diagnostics, ¬options.Grave d := by
  simp only [List.filter_eq_nil_iff, CompilerOptions.rejects_iff]

/-- What is made of the shape of a tree does not depend on how warnings are taken. -/
theorem Document.ofNode_warningsAsErrors (options : CompilerOptions) (asErrors : Bool)
    (root : Node Token) :
    Document.ofNode { options with warningsAsErrors := asErrors } root =
      Document.ofNode options root := rfl

/-- Each diagnostic after the first is written behind a line break. -/
theorem message_rejected_cons (d : Diagnostic) (ds : List Diagnostic) :
    (CompileError.rejected (d :: ds)).message =
      d.text ++ String.join (ds.map fun e => "\n" ++ e.text) := by
  show "\n".intercalate (d.text :: ds.map Diagnostic.text) = _
  induction ds generalizing d with
  | nil => simp
  | cons e ds ih =>
    rw [List.map_cons, String.intercalate_cons_cons, ih e, List.map_cons, String.join_cons,
      String.append_assoc, String.append_assoc]

/-! ### Rejection -/

/-- **A tree is rejected exactly when some node in it has a grave diagnostic**, whatever its shape.
The error has the grave diagnostics of all nodes and no others, those of each node in their order
and the nodes in preorder, and its message has them on lines of their own.  Notes are never grave.
A tree that is compiled with warnings taken for errors is compiled to the same document without. -/
theorem compile_rejected_iff_grave (options : CompilerOptions) (tree : Tree) :
    ((∃ ds, compile options tree = .error (.rejected ds)) ↔
        ∃ path m, tree.root.descend? path = some m ∧ ∃ d ∈ m.diagnostics, options.Grave d) ∧
      (∃ nodes, tree.root.IsPreorder nodes ∧
        ∀ ds, compile options tree = .error (.rejected ds) →
          ds = nodes.flatMap fun placed => placed.2.diagnostics.filter (options.Grave ·)) ∧
      (∀ d ds, compile options tree = .error (.rejected (d :: ds)) →
        (CompileError.rejected (d :: ds)).message =
          d.text ++ String.join (ds.map fun e => "\n" ++ e.text)) ∧
      ((∀ path m, tree.root.descend? path = some m → ∀ d ∈ m.diagnostics, d.severity = .note) →
        ∀ ds, compile options tree ≠ .error (.rejected ds)) ∧
      ∀ document, compile { options with warningsAsErrors := true } tree = .ok document →
        compile { options with warningsAsErrors := false } tree = .ok document := by
  have hiff : (∃ ds, compile options tree = .error (.rejected ds)) ↔
      ∃ path m, tree.root.descend? path = some m ∧ ∃ d ∈ m.diagnostics, options.Grave d := by
    constructor
    · rintro ⟨ds, h⟩
      obtain ⟨hne, rfl⟩ := compile_eq_rejected_iff.1 h
      obtain ⟨d, hd⟩ := List.exists_mem_of_ne_nil _ hne
      obtain ⟨hmem, hrejects⟩ := List.mem_filter.1 hd
      obtain ⟨path, m, hm, hdm⟩ := Node.mem_allDiagnostics_iff.1 hmem
      exact ⟨path, m, hm, d, hdm, CompilerOptions.rejects_iff.1 hrejects⟩
    · rintro ⟨path, m, hm, d, hdm, hgrave⟩
      have hmem : d ∈ tree.diagnostics := Node.mem_allDiagnostics_iff.2 ⟨path, m, hm, hdm⟩
      have hd : d ∈ tree.diagnostics.filter options.rejects :=
        List.mem_filter.2 ⟨hmem, CompilerOptions.rejects_iff.2 hgrave⟩
      exact ⟨_, compile_eq_rejected_iff.2 ⟨List.ne_nil_of_mem hd, rfl⟩⟩
  refine ⟨hiff, ⟨tree.root.preorder, tree.root.isPreorder_preorder, ?_⟩,
    fun d ds _ => message_rejected_cons d ds, ?_, ?_⟩
  · intro ds h
    have hrejects : options.rejects = fun d => decide (options.Grave d) := by
      funext d
      rw [Bool.eq_iff_iff, CompilerOptions.rejects_iff, decide_eq_true_iff]
    rw [(compile_eq_rejected_iff.1 h).2, Tree.diagnostics, tree.root.allDiagnostics_eq_flatMap,
      List.filter_flatMap, hrejects]
  · intro hnotes ds h
    obtain ⟨path, m, hm, d, hd, hgrave⟩ := hiff.1 ⟨ds, h⟩
    have hnote := hnotes path m hm d hd
    rw [CompilerOptions.Grave, hnote] at hgrave
    simp at hgrave
  · intro document h
    obtain ⟨hnone, hshape⟩ := compile_eq_ok_iff.1 h
    rw [Document.ofNode_warningsAsErrors] at hshape
    refine compile_eq_ok_iff.2 ⟨filter_rejects_eq_nil_iff.2 fun d hd hgrave => ?_, hshape⟩
    exact filter_rejects_eq_nil_iff.1 hnone d hd (hgrave.imp_right fun h => ⟨h.1, rfl⟩)

/-- An error deep in a tree and a warning count before the faults of its shape, here a keyframe at
the top and a storyboard without a name. -/
theorem compile_rejected_iff_grave_misshapen :
    let remark (severity : Severity) : Diagnostic := { severity, code := .unexpectedToken }
    let target : Node Token :=
      { kind := .storyboardTarget, diagnostics := [remark .note, remark .error] }
    let tree : Tree :=
      { root := { kind := .document, children := [
          .node { kind := .keyframe, diagnostics := [remark .warning] },
          .node { kind := .storyboard, children := [.node target] }] }
        source := ⟨0, ""⟩ }
    (∃ ds, compile {} tree = .error (.rejected ds)) ∧
      compile { warningsAsErrors := true } tree =
        .error (.rejected [remark .warning, remark .error]) := by
  intro remark target tree
  have hgrave : ({} : CompilerOptions).Grave (remark .error) := .inl rfl
  have hmem : remark .error ∈ target.diagnostics := .tail _ (.head _)
  exact ⟨(compile_rejected_iff_grave {} tree).1.2 ⟨[1, 0], target, rfl, _, hmem, hgrave⟩, rfl⟩

end Stylesheet

end StyledText
