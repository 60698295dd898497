import StyledText.Span

/-!
# Diagnostics

A diagnostic is a remark on a stretch of source text: how grave it is, a code from a fixed list, a
message, and any number of notes.  Each code has a message of its own for diagnostics that bring
none.
-/

namespace StyledText

/-- How grave a diagnostic is. -/
inductive Severity where
  /-- The source cannot be used. -/
  | error
  /-- The source can be used, but something is wrong with it. -/
  | warning
  /-- A remark. -/
  | note
deriving DecidableEq, Repr

def Severity.name : Severity → String
  | .error => "Error"
  | .warning => "Warning"
  | .note => "Note"

/-- What a diagnostic is about. -/
inductive DiagnosticCode where
  | unrecognizedCharacter
  | unterminatedString
  | malformedNumber
  | unexpectedToken
  | unclosedBlock
  | expectedSelector
  | expectedPropertyValue
  | expectedTriggerAction
  | expectedKeyframe
deriving DecidableEq, Repr

namespace DiagnosticCode

/-- All codes, the lexical ones first. -/
def all : List DiagnosticCode :=
  [.unrecognizedCharacter, .unterminatedString, .malformedNumber, .unexpectedToken, .unclosedBlock,
    .expectedSelector, .expectedPropertyValue, .expectedTriggerAction, .expectedKeyframe]

/-- The code as it is written: lexical codes count from `S001`, the others from `S100`. -/
def name : DiagnosticCode → String
  | .unrecognizedCharacter => "S001"
  | .unterminatedString => "S002"
  | .malformedNumber => "S003"
  | .unexpectedToken => "S100"
  | .unclosedBlock => "S101"
  | .expectedSelector => "S102"
  | .expectedPropertyValue => "S103"
  | .expectedTriggerAction => "S104"
  | .expectedKeyframe => "S105"

def ofName? (s : String) : Option DiagnosticCode := all.find? fun code => code.name == s

/-- The message of a diagnostic that brings none of its own. -/
def message : DiagnosticCode → String
  | .unrecognizedCharacter => "unrecognized character"
  | .unterminatedString => "unterminated string"
  | .malformedNumber => "malformed number"
  | .unexpectedToken => "unexpected token"
  | .unclosedBlock => "unclosed block"
  | .expectedSelector => "expected selector"
  | .expectedPropertyValue => "expected property value"
  | .expectedTriggerAction => "expected trigger action"
  | .expectedKeyframe => "expected keyframe"

end DiagnosticCode

/-- A remark on a stretch of source text. -/
structure Diagnostic where
  severity : Severity
  code : DiagnosticCode
  message : String := code.message
  span : Span := .none
  notes : List String := []
deriving DecidableEq, Repr

namespace Diagnostic

/-- Whether the diagnostic is an error. -/
def isError (d : Diagnostic) : Bool := d.severity == .error

/-- A diagnostic is written on one line with its code, place and message, and each note on a line
of its own. -/
def text (d : Diagnostic) : String :=
  d.code.name ++ " at " ++ toString d.span ++ ": " ++ d.message ++
    String.join (d.notes.map fun note => "\n  note: " ++ note)

end Diagnostic

end StyledText
