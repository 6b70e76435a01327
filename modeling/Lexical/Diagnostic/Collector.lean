import Lexical.Diagnostic

/-! A collector keeps errors and warnings for one report. Its limit holds for the errors of a scan;
an error that is added by hand is always kept. -/

namespace Lexical

/-- Errors and warnings in the order in which they were met. -/
structure Collector where
  limit : Int := 100
  errors : List Diagnostic := []
  warnings : List Warning := []
  deriving DecidableEq, Repr

namespace Collector

/-- Keeps an error, whatever the limit is. -/
def add (collector : Collector) (error : Diagnostic) : Collector :=
  { collector with errors := collector.errors ++ [error] }

/-- Keeps a warning; there is no limit to them. -/
def warn (collector : Collector) (warning : Warning) : Collector :=
  { collector with warnings := collector.warnings ++ [warning] }

/-- The limit is reached. -/
def isFull (collector : Collector) : Bool := collector.limit ≤ collector.errors.length

/-- Adds an error unless the limit is reached. -/
def addWithin (collector : Collector) (error : Diagnostic) : Collector :=
  if collector.isFull then collector else collector.add error

/-- An error was kept. What the limit turned away does not count. -/
def hasErrors (collector : Collector) : Bool := !collector.errors.isEmpty

/-- Forgets what was kept. The limit stays. -/
def clear (collector : Collector) : Collector := { collector with errors := [], warnings := [] }

/-- A number and a noun, in the plural unless the number is one. -/
def counted (n : Nat) (noun : Text) : Text :=
  .ofNat n ++ " " ++ noun ++ (if n = 1 then [] else ['s'])

/-- How many errors and how many warnings were kept. -/
def summary (collector : Collector) : Text :=
  counted collector.errors.length "error" ++ ", " ++ counted collector.warnings.length "warning"

/-- Each error with an empty line after it, the warnings, an empty line and the summary. -/
def report (collector : Collector) : Text :=
  .ofLines (collector.errors.flatMap (fun error => [error.render, []]) ++
    collector.warnings.map Warning.render ++ [[], collector.summary])

end Collector
end Lexical
