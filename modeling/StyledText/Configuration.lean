import StyledText.Settings
import StyledText.Stylesheet.Options
import StyledText.Text.Blank
import StyledText.Toml.Document

/-!
# Configurations

The settings of streams and the options of the compiler are read from TOML documents.  Every setting
has a default, so the empty document is a configuration.  A document that is malformed or has a
value of the wrong sort is refused as a whole before any value is checked.
-/

namespace StyledText

open Number Toml

/-- Why a configuration is refused. -/
inductive ConfigError where
  /-- The text is no document, or a value is of the wrong sort. -/
  | malformed
  | invalid (setting : InvalidSetting)
  | missing (field : String)
deriving DecidableEq, Repr

def ConfigError.message : ConfigError → String
  | .malformed => "malformed configuration"
  | .invalid setting => setting.message
  | .missing field => "missing required field '" ++ field ++ "'"

/-! ### Streams -/

/-- The layout settings in a value. -/
def LayoutSettings.ofValue? (v : Value) : Option LayoutSettings := do
  let r ← v.toRecord?
  let length (v : Value) : Option (Option Binary32) := v.toBinary32?.map some
  return {
    maxWidth := ← r.get? 0 "max-width" length none
    maxHeight := ← r.get? 1 "max-height" length none
    wrapping := ← r.get? 2 "wrapping" (Value.toChoice? Wrapping.ofName?) .wrap
    alignment := ← r.get? 3 "alignment" (Value.toChoice? Alignment.ofName?) .left
    lineSpacing := ← r.get? 4 "line-spacing" Value.toBinary32? .one
    tabWidth := UInt32.ofNat (← r.get? 5 "tab-width" (Value.toNat? UInt32.size) 4)
    hyphenate := ← r.get? 6 "hyphenate" Value.toBool? false }

/-- The parser options in a value. -/
def ParserOptions.ofValue? (v : Value) : Option ParserOptions := do
  let r ← v.toRecord?
  return {
    markup := ← r.get? 0 "markup" Value.toBool? true
    icons := ← r.get? 1 "icons" Value.toBool? true
    escapes := ← r.get? 2 "escapes" Value.toBool? true }

/-- The stream configuration in a value. -/
def StreamConfig.ofValue? (v : Value) : Option StreamConfig := do
  let r ← v.toRecord?
  return {
    initialCapacity := ← r.get? 0 "initial-capacity" (Value.toNat? UInt64.size) 0
    layout := ← r.get? 1 "layout" LayoutSettings.ofValue? {}
    parser := ← r.get? 2 "parser" ParserOptions.ofValue? {} }

/-- The stream configuration in a document.  Its numbers are checked last. -/
def StreamConfig.ofText (text : String) : Except ConfigError StreamConfig :=
  match (Toml.read? text).bind StreamConfig.ofValue? with
  | none => .error .malformed
  | some config =>
    match config.layout.invalid? with
    | some setting => .error (.invalid setting)
    | none => .ok config

/-! ### The compiler -/

namespace Stylesheet.CompilerOptions

/-- The compiler options in a value. -/
def ofValue? (v : Value) : Option CompilerOptions := do
  let r ← v.toRecord?
  return {
    baseElementType := ← r.get? 0 "base-element-type" Value.toText? "UIElement"
    warningsAsErrors := ← r.get? 1 "warnings-as-errors" Value.toBool? false }

/-- The compiler options in a document.  The base element type must not be blank. -/
def ofText (text : String) : Except ConfigError CompilerOptions :=
  match (Toml.read? text).bind ofValue? with
  | none => .error .malformed
  | some options =>
    if Text.isBlankText options.baseElementType then .error (.missing "base-element-type")
    else .ok options

end Stylesheet.CompilerOptions

end StyledText
