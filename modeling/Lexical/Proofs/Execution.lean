import Lexical.Command.Request
import Lexical.Proofs.Scan

/-! A run of the command on a text. It comes to what the diagnosis of the text tells
(`Host.execute_eq`): the tokens on standard output, and on standard error the log, the times and, in
a strict run, the findings. Which of the two scans was made cannot be seen in it. -/

namespace Lexical.Command

namespace Request

variable (request : Request)

/-- What a run logs of its scan. -/
def log (text : Text) (diagnosis : Diagnosis) : List Text :=
  request.openingLog text ++
    request.scanLog text diagnosis.tokens
      (if request.strict then some diagnosis.collector else none)

/-- What a strict run tells: the report if there are errors, else the warnings. -/
def findings (collector : Collector) : List Text :=
  if request.strict then
    if collector.hasErrors then [collector.report] else collector.warnings.map Warning.render
  else []

theorem lexed_eq (settings : Settings) (text : Text) :
    let diagnosis := diagnose (request.source text) (request.options settings)
    request.lexed settings text =
      .ok (diagnosis.tokens, if request.strict then some diagnosis.collector else none) := by
  intro diagnosis
  unfold lexed
  cases request.strict with
  | false =>
    rw [if_neg Bool.false_ne_true, if_neg Bool.false_ne_true, lex_eq, tokens_diagnose]
    rfl
  | true =>
    rw [if_pos rfl, if_pos rfl, examine_eq]
    rfl

end Request

namespace Host

variable (host : Host) (request : Request)

theorem verdict_eq (collector : Collector) :
    host.verdict request (if request.strict then some collector else none) =
      { exitCode := if request.strict && collector.hasErrors then .lexError else .success
        stderr := host.stderr.tellAll (request.findings collector) } := by
  unfold Request.findings
  cases request.strict with
  | false => rfl
  | true =>
    rw [if_pos rfl, if_pos rfl, verdict, Collector.failIfErrors]
    cases collector.hasErrors <;> rfl

/-- A run is told by the diagnosis of its text, whichever of the two scans it makes. -/
theorem execute_eq (text : Text) :
    let diagnosis := diagnose (request.source text) (request.options host.settings)
    host.execute request text =
      { exitCode := if request.strict && diagnosis.collector.hasErrors then .lexError else .success
        stdout := host.stdout.tell (Token.renderAll request.json diagnosis.tokens)
        stderr := .unlines (request.log text diagnosis) ++
          host.stderr.tellAll (host.times request) ++
          host.stderr.tellAll (request.findings diagnosis.collector) } := by
  rw [execute, request.lexed_eq]
  dsimp only
  rw [verdict_eq]
  rfl

theorem fulfil_of_text {request : Request} {text : Text} (htext : request.text = .ok text) :
    host.fulfil request =
      (host.execute request text).after (.unlines (request.settingsLog host.settings)) := by
  rw [fulfil, htext]

end Host
end Lexical.Command
