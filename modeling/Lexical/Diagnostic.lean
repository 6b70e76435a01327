import Lexical.Source

/-! Diagnostics: what went wrong, where, and how it is told. -/

namespace Lexical

/-- Why an error is one. -/
inductive Cause where
  | unknownCharacter (c : Char)
  | unterminatedLiteral (literal : Text)
  | unterminatedComment (documentation : Bool)
  /-- A complaint in words of its own. -/
  | other (message : Text) (hint : Option Text)
  /-- A finished report. -/
  | report (message : Text) (hint : Option Text)
  /-- A failure that has no place in a source. -/
  | plain (message : Text)
  deriving DecidableEq, Repr

namespace Cause

/-- The closing quote of each literal that has one. -/
def closers : List (Text × Text) :=
  [("character", ['\x27']), ("multi-line string", ['\x22', '\x22', '\x22']), ("string", ['\x22'])]

/-- What a comment is called that lacks its end. -/
def commentName (documentation : Bool) : Text :=
  if documentation then "documentation comment" else "block comment"

/-- The cause in words. -/
def message : Cause → Text
  | unknownCharacter c => "unknown character '" ++ c :: "' (0x" ++ Text.upperHex c.toNat ++ ")"
  | unterminatedLiteral literal => "unterminated " ++ literal ++ " literal"
  | unterminatedComment documentation => "unterminated " ++ commentName documentation
  | other message _ | report message _ | plain message => message

/-- What could be done about it. Only a missing end has a hint of its own. -/
def hint : Cause → Option Text
  | unterminatedLiteral literal =>
    (closers.lookup literal).map fun closer =>
      "add closing " ++ closer ++ " to complete the " ++ literal
  | unterminatedComment _ => some "add closing */ to terminate the comment"
  | other _ hint | report _ hint => hint
  | unknownCharacter _ | plain _ => none

end Cause

/-- An error: its cause and, if it has a place in a source, where that is and what stands there. -/
structure Diagnostic where
  cause : Cause
  location : Option Location := none
  sourceLine : Option Text := none
  deriving DecidableEq, Repr

namespace Diagnostic

/-- The first line: place, severity and message. -/
def header (diagnostic : Diagnostic) : Text :=
  match diagnostic.location with
  | some location => location.render ++ ": error: " ++ diagnostic.cause.message
  | none => "error: " ++ diagnostic.cause.message

/-- A caret under a column of a line that is indented by four. -/
def caret (column : Int) : List Text :=
  if 0 < column then [List.replicate (column + 3).toNat ' ' ++ ['^']] else []

/-- The line of the source and a caret under the place. Without a place there is no line. -/
def excerpt (diagnostic : Diagnostic) : List Text :=
  match diagnostic.location, diagnostic.sourceLine with
  | some location, some line => ("    " ++ line) :: caret location.column
  | _, _ => []

/-- An empty hint is no hint. -/
def hintLine (diagnostic : Diagnostic) : List Text :=
  match diagnostic.cause.hint with
  | some (c :: hint) => ["hint: " ++ c :: hint]
  | _ => []

/-- The error as it is told. A report and a failure without a place are told as they are. -/
def render (diagnostic : Diagnostic) : Text :=
  match diagnostic.cause with
  | .report message _ | .plain message => message
  | _ => .ofLines (diagnostic.header :: diagnostic.excerpt ++ diagnostic.hintLine)

end Diagnostic

/-- Something that is reported and makes no error. -/
structure Warning where
  message : Text
  location : Option Location := none
  deriving DecidableEq, Repr

/-- A warning is told in one line. -/
def Warning.render (warning : Warning) : Text :=
  match warning.location with
  | some location => location.render ++ ": warning: " ++ warning.message
  | none => "warning: " ++ warning.message

end Lexical
