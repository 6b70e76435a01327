import Lexical.Reading
import Lexical.Diagnostic.Collector

/-! Anomalies: what a reading gives a collector to note. Errors are an unknown character and a
literal or comment without its end; warnings are a number with dots too many, and a character
literal that does not hold one character. -/

namespace Lexical

/-- What is wrong with a lexeme: an error, or something to warn of. -/
inductive Anomaly where
  | error (cause : Cause)
  | warning (message : Text)
  deriving DecidableEq, Repr

namespace Anomaly

/-- The name of a literal that has a closing quote. -/
def literalName? : Kind → Option Text
  | .string => some "string"
  | .character => some "character"
  | .multilineString => some "multi-line string"
  | _ => none

/-- What has no end and is no literal is a comment. -/
def unterminated (kind : Kind) : Cause :=
  match literalName? kind with
  | some literal => .unterminatedLiteral literal
  | none => .unterminatedComment (kind = .documentation)

/-- Without its end a lexeme is an error; the other flaws are those of a character literal. -/
def ofFlaw (kind : Kind) : Flaw → Anomaly
  | .unterminated => .error (unterminated kind)
  | .empty => .warning "empty character literal"
  | .tooLong => .warning "character literal holds more than one character"

/-- A numeral with more than one dot or with a dot at its end. -/
def isMalformed (numeral : Text) : Bool := 1 < numeral.count '.' || numeral.getLast? = some '.'

/-- What is wrong with a token by its value alone. -/
def ofToken? : Token → Option Anomaly
  | ⟨.unknown, [c]⟩ => some (.error (.unknownCharacter c))
  | ⟨.float, numeral⟩ =>
    if isMalformed numeral then some (.warning ("malformed numeric literal '" ++ numeral ++ "'"))
    else none
  | _ => none

end Anomaly

/-- The anomaly of the flaw goes before the one of the token. -/
def Reading.anomalies (reading : Reading) : List Anomaly :=
  (reading.flaw.map (Anomaly.ofFlaw reading.form.kind)).toList ++
    (reading.token?.bind Anomaly.ofToken?).toList

/-- Notes an anomaly of the lexeme that starts at an offset. Only errors count for the limit. -/
def Collector.note (source : Source) (start : Int) (collector : Collector) :
    Anomaly → Collector
  | .error cause => collector.addWithin ⟨cause, source.location start, source.line start⟩
  | .warning message => collector.warn ⟨message, source.location start⟩

end Lexical
