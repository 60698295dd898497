import StyledText.Stylesheet.Reading.Storyboard

/-!
# Compiling stylesheets

`compile` makes a document of a syntax tree, or says why it cannot.  It does so in two steps:

* **the diagnostics of the tree are looked at first.**  If any is an error, or a warning while the
  options take warnings for errors, the tree is rejected with all of these, whatever its shape;
* **the tree is read from the top in order**, and the first fault in its shape ends the reading.
-/

namespace StyledText.Stylesheet

open Syntax

/-- Whether a diagnostic keeps a tree from being compiled. -/
def CompilerOptions.rejects (options : CompilerOptions) (d : Diagnostic) : Bool :=
  match d.severity with
  | .error => true
  | .warning => options.warningsAsErrors
  | .note => false

/-- What stands at the top of a stylesheet. -/
inductive DocumentItem where
  | ruleSet (ruleSet : RuleSet)
  | storyboard (storyboard : Storyboard)
deriving DecidableEq, Repr

namespace DocumentItem

/-- The item that a node at the top describes. -/
def ofNode (options : CompilerOptions) (parent : NodeKind) (n : Node Token) :
    Except Fault DocumentItem :=
  match n.kind with
  | .ruleSet => (RuleSet.ofNode n).map .ruleSet
  | .storyboard => (Storyboard.ofNode options n).map .storyboard
  | found => .error (.unexpectedNode parent found)

def ruleSet? : DocumentItem → Option RuleSet
  | .ruleSet s => some s
  | .storyboard _ => none

def storyboard? : DocumentItem → Option Storyboard
  | .ruleSet _ => none
  | .storyboard s => some s

end DocumentItem

def Document.ofItems (items : List DocumentItem) : Document where
  ruleSets := items.filterMap DocumentItem.ruleSet?
  storyboards := items.filterMap DocumentItem.storyboard?

/-- The items of two parts give the rule sets and the storyboards of the one and then the other. -/
theorem Document.ofItems_append (first second : List DocumentItem) :
    Document.ofItems (first ++ second) =
      { ruleSets := (Document.ofItems first).ruleSets ++ (Document.ofItems second).ruleSets
        storyboards :=
          (Document.ofItems first).storyboards ++ (Document.ofItems second).storyboards } := by
  simp only [Document.ofItems, List.filterMap_append]

def Document.ofNode (options : CompilerOptions) (root : Node Token) : Except Fault Document :=
  (root.nodes.mapM (DocumentItem.ofNode options root.kind)).map Document.ofItems

/-- The document of a syntax tree. -/
def compile (options : CompilerOptions) (tree : Tree) : Except CompileError Document :=
  let rejected := tree.diagnostics.filter options.rejects
  if rejected.isEmpty then (Document.ofNode options tree.root).mapError .fault
  else .error (.rejected rejected)

end StyledText.Stylesheet
