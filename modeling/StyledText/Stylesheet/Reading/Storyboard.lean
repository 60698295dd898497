import StyledText.Stylesheet.Options
import StyledText.Stylesheet.Reading.RuleSet

/-!
# Reading storyboards

A target may have a selector and an animation a navigation; of several the last one counts, though
all must be sound.  A target that names no type is for the base type of the options.  The index of a
navigation is not kept.
-/

namespace StyledText.Stylesheet

open Number Syntax

/-! ### Animations -/

def Keyframe.ofNode (n : Node Token) : Except Fault Keyframe := do
  let text ← n.requireText .time
  match Binary32.ofText? text with
  | none => .error (.invalidTime text)
  | some time =>
    let value ← n.requireText .value
    return { time, value, easing := n.text? .easing }

def Navigation.ofNode (n : Node Token) : Except Fault Navigation := do
  let property ← n.requireText .identifier
  let targetType ← n.requireText .typeName
  return { property, targetType }

/-- What stands inside an animation. -/
inductive AnimationItem where
  | property
  | navigation (navigation : Navigation)
  | keyframe (keyframe : Keyframe)
deriving DecidableEq, Repr

namespace AnimationItem

def ofNode (parent : NodeKind) (n : Node Token) : Except Fault AnimationItem :=
  match n.kind with
  | .propertyName => .ok .property
  | .navigation => (Navigation.ofNode n).map .navigation
  | .keyframe => (Keyframe.ofNode n).map .keyframe
  | found => .error (.unexpectedNode parent found)

def navigation? : AnimationItem → Option Navigation
  | .navigation n => some n
  | _ => none

def keyframe? : AnimationItem → Option Keyframe
  | .keyframe k => some k
  | _ => none

end AnimationItem

def Animation.ofNode (n : Node Token) : Except Fault Animation := do
  let property ← PropertyName.inNode n
  let items ← n.nodes.mapM (AnimationItem.ofNode n.kind)
  return {
    property
    navigation := (items.filterMap AnimationItem.navigation?).getLast?
    keyframes := items.filterMap AnimationItem.keyframe? }

/-! ### Targets -/

/-- What stands inside a target. -/
inductive TargetItem where
  | selector (selector : Selector)
  | animation (animation : Animation)
deriving DecidableEq, Repr

namespace TargetItem

def ofNode (parent : NodeKind) (n : Node Token) : Except Fault TargetItem :=
  match n.kind with
  | .selector => (Selector.ofNode n).map .selector
  | .animation => (Animation.ofNode n).map .animation
  | found => .error (.unexpectedNode parent found)

def selector? : TargetItem → Option Selector
  | .selector s => some s
  | .animation _ => none

def animation? : TargetItem → Option Animation
  | .selector _ => none
  | .animation a => some a

end TargetItem

/-- The types that a target is for. -/
def StoryboardTarget.filterOf (options : CompilerOptions) (n : Node Token) : List String :=
  if (n.textsOf .typeName).isEmpty then [options.baseElementType] else n.textsOf .typeName

def StoryboardTarget.ofNode (options : CompilerOptions) (n : Node Token) :
    Except Fault StoryboardTarget := do
  let items ← n.nodes.mapM (TargetItem.ofNode n.kind)
  return {
    selector := (items.filterMap TargetItem.selector?).getLast?
    filter := filterOf options n
    animations := items.filterMap TargetItem.animation? }

/-! ### Storyboards -/

/-- The loop behavior that a storyboard node asks for. -/
def LoopBehavior.inNode (n : Node Token) : Except Fault LoopBehavior :=
  match n.text? .loopBehavior with
  | none => .ok .once
  | some text =>
    match LoopBehavior.ofKeyword? text with
    | none => .error (.unknownLoopBehavior text)
    | some behavior => .ok behavior

def Storyboard.targetOf (options : CompilerOptions) (parent : NodeKind) (n : Node Token) :
    Except Fault StoryboardTarget :=
  if n.kind = .storyboardTarget then StoryboardTarget.ofNode options n
  else .error (.unexpectedNode parent n.kind)

def Storyboard.ofNode (options : CompilerOptions) (n : Node Token) : Except Fault Storyboard := do
  let name ← n.requireText .identifier
  let loopBehavior ← LoopBehavior.inNode n
  let targets ← n.nodes.mapM (targetOf options n.kind)
  return { name, loopBehavior, targets }

end StyledText.Stylesheet
