import StyledText.Number.Binary32
import StyledText.Stylesheet.Rule
import StyledText.Stylesheet.Selector

/-!
# Storyboards

A storyboard animates properties of several targets over time.  An animation goes through keyframes,
each the value that the property has at a time; times are in seconds.
-/

namespace StyledText.Stylesheet

open Number

/-- What happens when a storyboard has reached its end. -/
inductive LoopBehavior where
  /-- It stops. -/
  | once
  /-- It starts again. -/
  | loop
  /-- It runs backward. -/
  | reverse
deriving DecidableEq, Repr

namespace LoopBehavior

def all : List LoopBehavior := [.once, .loop, .reverse]

def keyword : LoopBehavior → String
  | .once => "none"
  | .loop => "loop"
  | .reverse => "reverse"

def ofKeyword? (keyword : String) : Option LoopBehavior := all.find? fun b => b.keyword == keyword

end LoopBehavior

/-- A value at a time. -/
structure Keyframe where
  time : Binary32
  value : String
  easing : Option String := none
deriving DecidableEq, Repr

/-- A step from the animated property to a property of its value. -/
structure Navigation where
  property : String
  targetType : String
deriving DecidableEq, Repr

/-- The course of one property. -/
structure Animation where
  property : PropertyName
  /-- Where to go on from the property. -/
  navigation : Option Navigation := none
  keyframes : List Keyframe := []
deriving DecidableEq, Repr

/-- The elements that a storyboard animates, and how. -/
structure StoryboardTarget where
  /-- Where the elements are. -/
  selector : Option Selector := none
  filter : List String
  animations : List Animation := []
deriving DecidableEq, Repr

/-- A named animation of several targets. -/
structure Storyboard where
  name : String
  loopBehavior : LoopBehavior := .once
  targets : List StoryboardTarget := []
deriving DecidableEq, Repr

namespace Storyboard

/-- All keyframes, target by target and animation by animation. -/
def keyframes (s : Storyboard) : List Keyframe :=
  s.targets.flatMap fun target => target.animations.flatMap fun animation => animation.keyframes

/-- The greatest time of a keyframe, and at least zero. -/
def duration (s : Storyboard) : Binary32 :=
  (s.keyframes.map fun keyframe => keyframe.time).foldl Binary32.max .zero

end Storyboard

end StyledText.Stylesheet
