import Lexical.Command.Run

/-! The command itself: arguments, environment, input and outputs. -/

namespace Lexical.Main

open Command

/-- The number of an error, which can come with either sign. -/
def errorNumber (code : UInt32) : Nat := code.toInt32.toInt.natAbs

/-- A directory is told by its number, 21, and a long name by 36; a file used as a directory has
another. -/
def openFailure : IO.Error → OpenFailure
  | .noFileOrDirectory _ _ _ => .noSuchFile
  | .permissionDenied _ _ _ => .permissionDenied
  | .inappropriateType _ code _ =>
    if errorNumber code = 21 then .isDirectory else .notDirectory
  | .invalidArgument _ code details =>
    if errorNumber code = 36 then .nameTooLong else .other details.toList
  | error => .other (toString error)

/-- Reads a stream to its end. -/
partial def readAll (stream : IO.FS.Stream) (bytes : ByteArray) : IO ByteArray := do
  let chunk ← stream.read 65536
  if chunk.isEmpty then return bytes else readAll stream (bytes ++ chunk)

/-- Opens an input and reads it whole. -/
def read : Input → IO (Except OpenFailure (List UInt8))
  | .standardInput => return .ok (← readAll (← IO.getStdin) .empty).toList
  | .file name => do
    match ← (IO.FS.readBinFile (String.ofList name)).toBaseIO with
    | .ok bytes => return .ok bytes.toList
    | .error error => return .error (openFailure error)

/-- A variable of the environment, if it is set. -/
def setting (name : String) : IO (Option Text) := return (← IO.getEnv name).map String.toList

/-- The settings that the environment has. -/
def settings : IO Settings :=
  return {
    legacyDispatch := ← setting "JPP_LEGACY_DISPATCH"
    maxErrors := ← setting "JPP_MAX_ERRORS" }

/-- Nanoseconds as milliseconds with three places. -/
def milliseconds (nanoseconds : Nat) : Text :=
  let microseconds := (nanoseconds + 500) / 1000
  .ofNat (microseconds / 1000) ++ "." ++
    (Text.ofNat (microseconds % 1000)).leftpad 3 '0'

/-- The times between three readings of the clock. -/
def timing (start scanned printed : Nat) : Timing where
  scan := milliseconds (scanned - start)
  print := milliseconds (printed - scanned)
  total := milliseconds (printed - start)

/-- Writes a text at once. -/
def write (stream : IO.FS.Stream) (text : Text) : IO Unit := do
  stream.putStr (String.ofList text)
  stream.flush

/-- The stream as it is told on: whether it is a terminal is asked of the system. -/
def stream (stream : IO.FS.Stream) : IO Stream := return .stripped (← stream.isTty)

/-- Runs the command once for its outcome, and tells it again with the times that this took. -/
def run (arguments : List Text) : IO ExitCode := do
  let settings ← settings
  let opened ← match plan arguments with
    | .scan ⟨_, operand :: _⟩ => read (.ofOperand operand)
    | _ => pure (.ok [])
  let stdout ← stream (← IO.getStdout)
  let stderr ← stream (← IO.getStderr)
  let outcome (timing : Timing) :=
    Command.run arguments settings timing (fun _ => opened) stdout stderr
  let start ← IO.monoNanosNow
  let ended ← IO.lazyPure fun _ => outcome ⟨[], [], []⟩
  let scanned ← IO.monoNanosNow
  write (← IO.getStdout) ended.stdout
  let printed ← IO.monoNanosNow
  write (← IO.getStderr) (outcome (timing start scanned printed)).stderr
  return ended.exitCode

end Lexical.Main

/-- The command as a program. -/
def main (arguments : List String) : IO UInt32 :=
  return (← Lexical.Main.run (arguments.map String.toList)).code.toUInt32
