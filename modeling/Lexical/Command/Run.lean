import Lexical.Command.Arguments
import Lexical.Text.Control

/-! The command in its usual place: the rules for arguments, and streams that strip what is no
terminal of the control sequences that `Text.withoutControls` takes away. -/

namespace Lexical.Command

/-- A stream, stripped of control sequences unless it is a terminal. -/
def Stream.stripped (isTerminal : Bool) : Stream where
  isTerminal
  strip := Text.withoutControls

theorem Stream.lawful_stripped (isTerminal : Bool) : (stripped isTerminal).Lawful where
  strip_eq_self _ := Text.withoutControls_eq_self

/-- The host of a command with these settings, times and inputs. Without more said, both streams are
no terminals. -/
def host (settings : Settings) (timing : Timing)
    (opened : Input → Except OpenFailure (List UInt8))
    (stdout stderr : Stream := .stripped false) : Host where
  parse := request? opened stdout stderr
  settings
  timing
  stdout
  stderr

/-- Runs the command there. -/
def run (arguments : List Text) (settings : Settings) (timing : Timing)
    (opened : Input → Except OpenFailure (List UInt8))
    (stdout stderr : Stream := .stripped false) : Outcome :=
  (host settings timing opened stdout stderr).run arguments

/-- An incident that is reported while no failure is being dealt with, so that no place of one is
known. -/
def Incident.outcome (verbose : Bool) (incident : Incident) : Outcome :=
  incident.report (.stripped false) verbose "NoneType: None\n"

end Lexical.Command
