import Lexical.Command.Outcome
import Lexical.Command.Sample
import Lexical.Diagnosis

/-! A run of the command: from a request, the settings and the bytes of the input to the exit code
and the two outputs. The tokens go to standard output. Standard error has, in this order, log lines,
times, and the report or the warnings of a strict run; log lines are written as they are. What a run
depends on and does not decide itself is its host: how the arguments are taken, the environment, the
clock and the two streams. -/

namespace Lexical.Command

/-- Times of a run, in milliseconds as they are printed. -/
structure Timing where
  scan : Text
  print : Text
  total : Text
  deriving DecidableEq, Repr

/-- The lines that the times are told in. -/
def Timing.lines (timing : Timing) : List Text :=
  ["scan:  " ++ timing.scan ++ " ms", "print: " ++ timing.print ++ " ms",
   "total: " ++ timing.total ++ " ms"]

/-- A file that is open for reading, or standard input. -/
structure InputFile where
  name : Text
  /-- What reading it gives. -/
  contents : Except SystemError (List UInt8)
  /-- Every line end becomes a newline as the file is read. Standard input can come without that. -/
  unifiesNewlines : Bool

/-- Reads the text of a file. -/
def InputFile.read (file : InputFile) : Except Incident Text :=
  match file.contents with
  | .error error => .error (.ofSystemError error)
  | .ok bytes =>
    match Utf8.decode bytes with
    | .error error => .error (.undecodable error)
    | .ok text => .ok (if file.unifiesNewlines then text.unifyNewlines else text)

theorem InputFile.read_of_error {file : InputFile} {bytes : List UInt8} {error : DecodeError}
    (hcontents : file.contents = .ok bytes) (hdecode : Utf8.decode bytes = .error error) :
    file.read = .error (.undecodable error) := by
  rw [read, hcontents]
  dsimp only
  rw [hdecode]

theorem InputFile.read_of_ok {file : InputFile} {bytes : List UInt8} {text : Text}
    (hcontents : file.contents = .ok bytes) (hdecode : Utf8.decode bytes = .ok text) :
    file.read = .ok (if file.unifiesNewlines then text.unifyNewlines else text) := by
  rw [read, hcontents]
  dsimp only
  rw [hdecode]

/-- What the command is asked to scan, and how. -/
structure Request where
  /-- Without a file the program that the command brings along is scanned. -/
  input : Option InputFile := none
  json : Bool := false
  timing : Bool := false
  strict : Bool := false
  legacy : Bool := false
  verbose : Bool := false

namespace Request

/-- The name that messages give the input. -/
def name (request : Request) : Text :=
  match request.input with
  | some file => file.name
  | none => "<sample>"

/-- The text to scan. -/
def text (request : Request) : Except Incident Text :=
  match request.input with
  | some file => file.read
  | none => .ok sample

/-- The settings give the options; a request can ask for the legacy order beyond them. -/
def options (request : Request) (settings : Settings) : Options :=
  { settings.options with legacy := request.legacy || settings.legacy }

/-- Warnings about the settings; a verbose run says that they are warnings. -/
def settingsLog (request : Request) (settings : Settings) : List Text :=
  if request.verbose then settings.warnings.map ("WARNING: " ++ ·) else settings.warnings

/-- A text under the name of the input. -/
def source (request : Request) (text : Text) : Source := ⟨request.name, text⟩

/-- The tokens of a text and, in a strict run, what is wrong with it. -/
def lexed (request : Request) (settings : Settings) (text : Text) :
    Except Fault (List Token × Option Collector) :=
  if request.strict then
    (examine (request.source text) (request.options settings) false).map fun diagnosis =>
      (diagnosis.tokens, some diagnosis.collector)
  else (lex text (request.options settings)).map fun tokens => (tokens, none)

/-- What a verbose run logs before the scan. -/
def openingLog (request : Request) (text : Text) : List Text :=
  if request.verbose then
    ["DEBUG: Scanning " ++ request.name ++ " (" ++ .ofNat text.length ++ " characters)"]
  else []

/-- What a verbose run logs of the scan. -/
def scanLog (request : Request) (text : Text) (tokens : List Token)
    (collector : Option Collector) : List Text :=
  if request.verbose then
    ("DEBUG: Tokenized " ++ .ofNat text.length ++ " characters into " ++ .ofNat tokens.length ++
      " tokens") ::
      collector.toList.map fun collector =>
        "DEBUG: " ++ request.name ++ ": " ++ .ofNat collector.errors.length ++ " errors, " ++
          .ofNat collector.warnings.length ++ " warnings"
  else []

end Request

/-- All that a run depends on and does not decide itself. -/
structure Host where
  /-- Takes the arguments for a request. Arguments that ask for something else, or for what there is
  not, are answered without one. -/
  parse : List Text → Except Outcome Request
  settings : Settings
  timing : Timing
  stdout : Stream
  stderr : Stream
  /-- What there is to write about the place of an unexpected failure. -/
  trace : Text := []

namespace Host

variable (host : Host) (request : Request)

/-- Ends the run of a request with an incident. -/
def report (incident : Incident) : Outcome :=
  incident.report host.stderr request.verbose host.trace

/-- What a scan ends in: the report if errors were collected, which lists the warnings too, and else
the warnings. -/
def verdict : Option Collector → Outcome
  | none => { exitCode := .success }
  | some collector =>
    match collector.failIfErrors with
    | .error fault => host.report request (.ofFault fault)
    | .ok () =>
      { exitCode := .success
        stderr := host.stderr.tellAll (collector.warnings.map Warning.render) }

/-- The times, if they are asked for. -/
def times : List Text := if request.timing then host.timing.lines else []

/-- Scans a text. The tokens are printed before the verdict. -/
def execute (text : Text) : Outcome :=
  match request.lexed host.settings text with
  | .error fault =>
    (host.report request (.ofFault fault)).after (.unlines (request.openingLog text))
  | .ok (tokens, collector) =>
    { (host.verdict request collector).after
        (.unlines (request.openingLog text ++ request.scanLog text tokens collector) ++
          host.stderr.tellAll (host.times request)) with
      stdout := host.stdout.tell (Token.renderAll request.json tokens) }

/-- Runs a request. Warnings about the settings go first. -/
def fulfil : Outcome :=
  Outcome.after (.unlines (request.settingsLog host.settings)) <|
    match request.text with
    | .error incident => host.report request incident
    | .ok text => host.execute request text

/-- Runs the command. -/
def run (arguments : List Text) : Outcome :=
  match host.parse arguments with
  | .error outcome => outcome
  | .ok request => host.fulfil request

end Host
end Lexical.Command
