import Lexical.Fault
import Lexical.Text.Utf8

/-! How the command ends: an exit code and what it wrote. What it tells its reader goes to a stream
line by line; what becomes of control sequences on the way is up to the stream. An incident is
something that stops the command before it is done. -/

namespace Lexical.Command

/-- The ways to end, as whoever calls the command sees them. -/
inductive ExitCode where
  | success
  | lexError
  | invalidArgs
  | internalError
  deriving DecidableEq, Repr

namespace ExitCode

/-- Every exit code, in ascending order. -/
def all : List ExitCode := [success, lexError, invalidArgs, internalError]

/-- The number that the command exits with. -/
def code : ExitCode → Nat
  | success => 0
  | lexError => 1
  | invalidArgs => 2
  | internalError => 3

/-- The name of the code in capitals. -/
def name : ExitCode → Text
  | success => "SUCCESS"
  | lexError => "LEX_ERROR"
  | invalidArgs => "INVALID_ARGS"
  | internalError => "INTERNAL_ERROR"

end ExitCode

/-! ### Streams -/

/-- Standard output or standard error, as the command finds it. A terminal acts on control
sequences; any other reader gets a text that is stripped of them, in a way that the command has no
part in. -/
structure Stream where
  isTerminal : Bool
  strip : Text → Text

namespace Stream

/-- What the command relies on: every control sequence starts with an escape character, so that a
text without one has nothing to be stripped of. -/
structure Lawful (stream : Stream) : Prop where
  strip_eq_self : ∀ text, '\x1b' ∉ text → stream.strip text = text

/-- What arrives of a line. -/
def tell (stream : Stream) (line : Text) : Text :=
  if stream.isTerminal then line ++ ['\n'] else stream.strip (line ++ ['\n'])

/-- What arrives of lines that are told one after the other. -/
def tellAll (stream : Stream) (lines : List Text) : Text := lines.flatMap stream.tell

theorem Lawful.tell_eq {stream : Stream} (h : stream.Lawful) {line : Text}
    (hline : stream.isTerminal = true ∨ '\x1b' ∉ line) : stream.tell line = line ++ ['\n'] := by
  unfold tell
  split
  · rfl
  · next hterminal =>
    refine h.strip_eq_self _ fun hescape => ?_
    obtain hescape | hescape := List.mem_append.mp hescape
    · exact (hline.resolve_left hterminal) hescape
    · exact absurd hescape (by decide)

/-- Lines arrive whole at a terminal, and everywhere if no escape character is in them. -/
theorem Lawful.tellAll_eq {stream : Stream} (h : stream.Lawful) {lines : List Text}
    (hlines : stream.isTerminal = true ∨ ∀ line ∈ lines, '\x1b' ∉ line) :
    stream.tellAll lines = .unlines lines := by
  induction lines with
  | nil => rfl
  | cons line lines ih =>
    have hline := hlines.imp_right fun h => h line List.mem_cons_self
    have hrest := hlines.imp_right fun h line hline => h line (List.mem_cons_of_mem _ hline)
    rw [tellAll, List.flatMap_cons, h.tell_eq hline]
    exact congrArg (line ++ ['\n'] ++ ·) (ih hrest)

end Stream

/-! ### Outcomes and incidents -/

/-- How a run ended, and what arrived on the two streams. -/
structure Outcome where
  exitCode : ExitCode
  stdout : Text := []
  stderr : Text := []
  deriving DecidableEq, Repr

/-- The outcome with a text on standard error before all else. -/
def Outcome.after (text : Text) (outcome : Outcome) : Outcome :=
  { outcome with stderr := text ++ outcome.stderr }

/-- A complaint of the operating system, about a file by its name or about one that is open. -/
structure SystemError where
  number : Int
  description : Text
  filename : Option Text
  deriving DecidableEq, Repr

/-- The number and the words of the operating system, then the name if there is one. -/
def SystemError.message (error : SystemError) : Text :=
  "[Errno " ++ .ofInt error.number ++ "] " ++ error.description ++
    match error.filename with
    | some filename => ": " ++ filename.quoted
    | none => []

/-- What can stop a run. -/
inductive Incident where
  | diagnostic (error : Diagnostic)
  | badParameter (message : Text)
  | fileNotFound (message : Text)
  | permissionDenied (message : Text)
  | undecodable (error : DecodeError)
  | unexpected (message : Text)
  deriving DecidableEq, Repr

namespace Incident

/-- The numbers of the operating system that mean a missing file and a lack of permission. -/
def ofSystemError (error : SystemError) : Incident :=
  if error.number = 2 then .fileNotFound error.message
  else if error.number = 1 ∨ error.number = 13 then .permissionDenied error.message
  else .unexpected error.message

/-- A report of errors is a diagnostic; other faults are not expected. -/
def ofFault : Fault → Incident
  | .errorsFound report => .diagnostic { cause := .report report none }
  | fault => .unexpected fault.message

/-- Each incident has its exit code. -/
def exitCode : Incident → ExitCode
  | diagnostic _ => .lexError
  | badParameter _ | fileNotFound _ | permissionDenied _ | undecodable _ => .invalidArgs
  | unexpected _ => .internalError

/-- A diagnostic of a source is complete as it is. -/
def message : Incident → Text
  | diagnostic ⟨.plain message, _, _⟩ => "Error: " ++ message
  | diagnostic error => error.render
  | badParameter message | fileNotFound message | permissionDenied message => "Error: " ++ message
  | undecodable error => "Error: input is not valid UTF-8: " ++ error.message
  | unexpected message => "Internal error: " ++ message

/-- What a verbose run writes about the place of an unexpected failure. -/
def tracing (verbose : Bool) (trace : Text) : Incident → Text
  | unexpected _ => if verbose then trace else []
  | _ => []

/-- Ends a run: the message is told, and the place of the failure is written after it as it is. -/
def report (stderr : Stream) (verbose : Bool) (trace : Text) (incident : Incident) : Outcome where
  exitCode := incident.exitCode
  stderr := stderr.tell incident.message ++ incident.tracing verbose trace

end Incident
end Lexical.Command
