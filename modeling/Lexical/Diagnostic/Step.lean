import Lexical.Diagnostic.Collector
import Lexical.Fault

/-! Single steps on a collector. -/

namespace Lexical

/-- What a step answers. -/
inductive Answer where
  | nothing
  | character (c : Option Char)
  | truth (b : Bool)
  | count (n : Nat)
  | text (text : Text)
  | tokens (tokens : List Token)
  deriving DecidableEq, Repr

namespace Collector

/-- What can be asked of a collector. -/
inductive Step where
  | add (error : Diagnostic)
  | warn (warning : Warning)
  | hasErrors
  | isFull
  | errorCount
  | warningCount
  | report
  | clear
  | failIfErrors
  deriving DecidableEq, Repr

/-- Fails with the report if an error was kept. -/
def failIfErrors (collector : Collector) : Except Fault Unit :=
  if collector.hasErrors then .error (.errorsFound collector.report) else .ok ()

/-- Does a step. Only the first two and `clear` change the collector. -/
def run (collector : Collector) : Step → Except Fault Answer × Collector
  | .add error => (.ok .nothing, collector.add error)
  | .warn warning => (.ok .nothing, collector.warn warning)
  | .hasErrors => (.ok (.truth collector.hasErrors), collector)
  | .isFull => (.ok (.truth collector.isFull), collector)
  | .errorCount => (.ok (.count collector.errors.length), collector)
  | .warningCount => (.ok (.count collector.warnings.length), collector)
  | .report => (.ok (.text collector.report), collector)
  | .clear => (.ok .nothing, collector.clear)
  | .failIfErrors => (collector.failIfErrors.map fun _ => .nothing, collector)

end Collector
end Lexical
