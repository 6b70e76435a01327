import Lexical.Diagnostic
import Lexical.Token

/-! Faults: the ways in which a step asked for by hand can fail. -/

namespace Lexical

/-- Why a step fails. -/
inductive Fault where
  /-- An unknown character was given as a text of another length than one. -/
  | notOneCharacter (length : Nat)
  /-- An unknown character was asked for past the end of the source. -/
  | noCharacter
  | unknownKind (name : Text)
  /-- Errors were collected; their report. -/
  | errorsFound (report : Text)
  deriving DecidableEq, Repr

namespace Fault

/-- The failure in words. -/
def message : Fault → Text
  | notOneCharacter length =>
    "ord() expected a character, but string of length " ++ .ofNat length ++ " found"
  | noCharacter => "ord() expected string of length 1, but NoneType found"
  | unknownKind name => name.quoted
  | errorsFound report => report

end Fault

/-- The kind with a name, which has to be one of the names. -/
def Kind.named (name : Text) : Except Fault Kind :=
  match Kind.ofName? name with
  | some kind => .ok kind
  | none => .error (.unknownKind name)

/-- An unknown character has to be given as a text of one character. -/
def Cause.ofUnknown : Text → Except Fault Cause
  | [c] => .ok (.unknownCharacter c)
  | text => .error (.notOneCharacter text.length)

end Lexical
