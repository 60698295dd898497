import StyledText.Diagnostic
import StyledText.Syntax.Kind

/-!
# Why a stylesheet does not compile

A tree is rejected when a parser has left a grave diagnostic in it, and then all such diagnostics
are listed.  Otherwise the first fault in the shape of the tree is reported: something missing, out
of place, or not to be understood.
-/

namespace StyledText.Stylesheet

open Syntax

/-- What is wrong with the shape of a tree. -/
inductive Fault where
  | unexpectedNode (parent found : NodeKind)
  | missingToken (node : NodeKind) (token : TokenKind)
  | missingNode (node child : NodeKind)
  | unknownOperator (text : String)
  | unknownLoopBehavior (text : String)
  | unknownQualifier (text : String)
  | invalidTime (text : String)
deriving DecidableEq, Repr

namespace Fault

/-- Why a text is no number. -/
def timeReason (text : String) : String :=
  if text.isEmpty then "cannot parse float from empty string" else "invalid float literal"

def message : Fault → String
  | .unexpectedNode parent found => "unexpected " ++ found.name ++ " node inside " ++ parent.name
  | .missingToken node token => node.name ++ " node has no " ++ token.name ++ " token"
  | .missingNode node child => node.name ++ " node has no " ++ child.name ++ " child"
  | .unknownOperator text => "unknown comparison operator '" ++ text ++ "'"
  | .unknownLoopBehavior text => "unknown loop behavior '" ++ text ++ "'"
  | .unknownQualifier text => "unknown child qualifier '" ++ text ++ "'"
  | .invalidTime text => "invalid keyframe time '" ++ text ++ "': " ++ timeReason text

end Fault

/-- Why a tree was not compiled. -/
inductive CompileError where
  | rejected (diagnostics : List Diagnostic)
  | fault (fault : Fault)
deriving DecidableEq, Repr

/-- What an error says: the diagnostics, one after another on lines of their own, or the fault. -/
def CompileError.message : CompileError → String
  | .rejected ds => "\n".intercalate (ds.map Diagnostic.text)
  | .fault f => f.message

end StyledText.Stylesheet
