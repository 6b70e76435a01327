import Lexical.Command.Request

/-! Arguments of the command. Options may stand before and after the file, may be repeated and, in
their short form, be written together; two hyphens end them. The first faulty option is refused
before anything else is looked at; then help and version go first, in the order given, and a file is
opened last. A run itself does not depend on these rules: they are one way to take arguments for a
request. -/

namespace Lexical.Command

/-! ### What the command says about itself -/

/-- The lines of the help. -/
def helpLines : List Text :=
  ["Usage: jpplex [OPTIONS] [INPUT_FILE]",
   "",
   "  Scan JPP source code and print its tokens.",
   "",
   "  INPUT_FILE is the source file to scan; use - for stdin. Without it the built-",
   "  in demo program is scanned.",
   "",
   "  Environment:",
   "      JPP_LEGACY_DISPATCH   same as --legacy-dispatch",
   "      JPP_MAX_ERRORS        error limit for --strict (default: 100)",
   "",
   "Options:",
   "  --json             Print tokens as a JSON array",
   "  --timing           Print scan, print and total times in milliseconds",
   "  --strict           Report lexical errors and exit with status 1 if any are",
   "                     found",
   "  --legacy-dispatch  Scan \"\"\" as STRING tokens, as the first scanner version did",
   "  -v, --verbose      Verbose output",
   "  --version          Show the version and exit.",
   "  --help             Show this message and exit."].map String.toList

/-- The version of the library. -/
def versionNumber : Text := "1.0.0"

/-- The line that tells the version. -/
def versionLine : Text := "jpplex, version " ++ versionNumber

/-- How the command is used, in short. -/
def usageLines : List Text :=
  ["Usage: jpplex [OPTIONS] [INPUT_FILE]", "Try 'jpplex --help' for help.", ""]

/-! ### Switches -/

/-- The options that the command knows; none takes a value. -/
inductive Switch where
  | json
  | timing
  | strict
  | legacyDispatch
  | verbose
  | version
  | help
  deriving DecidableEq, Repr

namespace Switch

/-- Every switch, in the order of the help. -/
def all : List Switch := [json, timing, strict, legacyDispatch, verbose, version, help]

/-- The long name of a switch. -/
def long : Switch → Text
  | json => "--json"
  | timing => "--timing"
  | strict => "--strict"
  | legacyDispatch => "--legacy-dispatch"
  | verbose => "--verbose"
  | version => "--version"
  | help => "--help"

/-- The switch with a long name. -/
def ofLong? (name : Text) : Option Switch := all.find? fun switch => switch.long = name

/-- Only one switch has a short name too. -/
def ofShort? (c : Char) : Option Switch := if c = 'v' then some verbose else none

end Switch

/-! ### Refusals -/

/-- Why a file cannot be opened. -/
inductive OpenFailure where
  | noSuchFile
  | isDirectory
  | notDirectory
  | nameTooLong
  | permissionDenied
  | other (description : Text)
  deriving DecidableEq, Repr

/-- The words of the operating system for a failure. -/
def OpenFailure.message : OpenFailure → Text
  | noSuchFile => "No such file or directory"
  | isDirectory => "Is a directory"
  | notDirectory => "Not a directory"
  | nameTooLong => "File name too long"
  | permissionDenied => "Permission denied"
  | other description => description

/-- Why arguments are refused. -/
inductive UsageError where
  | noSuchOption (name : Text)
  | takesNoValue (name : Text)
  | cannotOpen (filename : Text) (failure : OpenFailure)
  | extraArguments (arguments : List Text)
  deriving DecidableEq, Repr

namespace UsageError

/-- What is wrong with the arguments, in words. -/
def message : UsageError → Text
  | noSuchOption name => "No such option " ++ name.quoted ++ "."
  | takesNoValue name => "Option " ++ name.quoted ++ " does not take a value."
  | cannotOpen filename failure =>
    "Invalid value for '[INPUT_FILE]': '" ++ filename ++ "': " ++ failure.message
  | extraArguments arguments =>
    "Got unexpected extra argument" ++ (if arguments.length = 1 then [] else ['s']) ++ " (" ++
      List.intercalate [' '] arguments ++ ")"

/-- The usage goes before the error, except when an option was given a value. -/
def lines (error : UsageError) : List Text :=
  match error with
  | takesNoValue _ => ["Error: " ++ error.message]
  | _ => usageLines ++ ["Error: " ++ error.message]

/-- A refusal is told on standard error. -/
def outcome (stderr : Stream) (error : UsageError) : Outcome :=
  { exitCode := .invalidArgs, stderr := stderr.tellAll error.lines }

end UsageError

/-! ### Arguments -/

/-- Arguments by what they are: switches in the order given, and operands. -/
structure Arguments where
  switches : List Switch := []
  operands : List Text := []
  deriving DecidableEq, Repr

namespace Arguments

/-- The switch with a short name. -/
def short (c : Char) : Except UsageError Switch :=
  match Switch.ofShort? c with
  | some switch => .ok switch
  | none => .error (.noSuchOption ['-', c])

/-- The switches of one argument: a long name, or short names after one hyphen. -/
def switchesOf (argument : Text) : Except UsageError (List Switch) :=
  let name := argument.takeWhile (· != '=')
  match Switch.ofLong? name with
  | some switch => if name = argument then .ok [switch] else .error (.takesNoValue name)
  | none =>
    if ['-', '-'].isPrefixOf argument then .error (.noSuchOption name)
    else argument.tail.mapM short

/-- A hyphen alone is an operand. -/
def isOption : Text → Bool
  | '-' :: _ :: _ => true
  | _ => false

/-- Tells switches and operands apart, up to the first faulty option. -/
def parse : List Text → Except UsageError Arguments
  | [] => .ok {}
  | argument :: rest =>
    if argument = ['-', '-'] then .ok { operands := rest }
    else if isOption argument then do
      let switches ← switchesOf argument
      let arguments ← parse rest
      return { arguments with switches := switches ++ arguments.switches }
    else do
      let arguments ← parse rest
      return { arguments with operands := argument :: arguments.operands }

end Arguments

/-- What an operand names. -/
inductive Input where
  | standardInput
  | file (name : Text)
  deriving DecidableEq, Repr

namespace Input

/-- The name that messages give an input. -/
def name : Input → Text
  | standardInput => "<stdin>"
  | file name => name

/-- A hyphen stands for standard input. -/
def ofOperand (operand : Text) : Input :=
  if operand = ['-'] then standardInput else file operand

/-- The input with its bytes, open for reading. -/
def toFile (input : Input) (bytes : List UInt8) : InputFile :=
  { name := input.name, contents := .ok bytes, unifiesNewlines := true }

end Input

namespace Arguments

/-- Opens the input that is named first. An input that cannot be opened is refused before further
operands are. -/
def input? (opened : Input → Except OpenFailure (List UInt8)) :
    List Text → Except UsageError (Option InputFile)
  | [] => .ok none
  | operand :: extra =>
    match opened (.ofOperand operand) with
    | .error failure => .error (.cannotOpen (Input.ofOperand operand).name failure)
    | .ok bytes =>
      if extra = [] then .ok (some ((Input.ofOperand operand).toFile bytes))
      else .error (.extraArguments extra)

/-- The request that the switches make of an input. -/
def toRequest (arguments : Arguments) (input : Option InputFile) : Request where
  input
  json := .json ∈ arguments.switches
  timing := .timing ∈ arguments.switches
  strict := .strict ∈ arguments.switches
  legacy := .legacyDispatch ∈ arguments.switches
  verbose := .verbose ∈ arguments.switches

end Arguments

/-- What arguments ask for. -/
inductive Plan where
  | help
  | version
  | refuse (error : UsageError)
  | scan (arguments : Arguments)
  deriving DecidableEq, Repr

/-- Help and version go before a scan, whichever is asked for first. -/
def plan (arguments : List Text) : Plan :=
  match Arguments.parse arguments with
  | .error error => .refuse error
  | .ok arguments =>
    match arguments.switches.find? fun switch => switch = .help ∨ switch = .version with
    | some .help => .help
    | some _ => .version
    | none => .scan arguments

/-- Takes arguments for a request, or answers them. `opened` gives what opening an input yields. -/
def request? (opened : Input → Except OpenFailure (List UInt8)) (stdout stderr : Stream)
    (arguments : List Text) : Except Outcome Request :=
  match plan arguments with
  | .help => .error { exitCode := .success, stdout := stdout.tellAll helpLines }
  | .version => .error { exitCode := .success, stdout := stdout.tell versionLine }
  | .refuse error => .error (error.outcome stderr)
  | .scan arguments =>
    match Arguments.input? opened arguments.operands with
    | .error error => .error (error.outcome stderr)
    | .ok input => .ok (arguments.toRequest input)

end Lexical.Command
