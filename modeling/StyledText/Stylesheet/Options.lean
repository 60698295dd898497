/-!
# Compiler options

What can be chosen when a stylesheet is compiled.
-/

namespace StyledText.Stylesheet

/-- How a stylesheet is compiled. -/
structure CompilerOptions where
  /-- The type of the elements of a storyboard target that names no type. -/
  baseElementType : String := "UIElement"
  /-- Whether trees with warnings are rejected, as those with errors are. -/
  warningsAsErrors : Bool := false
deriving DecidableEq, Repr

instance : Inhabited CompilerOptions := ⟨{}⟩

end StyledText.Stylesheet
