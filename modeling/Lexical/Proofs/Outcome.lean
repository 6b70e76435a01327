import Lexical.Main
import Lexical.Proofs.Execution
import Lexical.Proofs.Printing

/-! What a run of the command comes to. A run that reads its input ends with what the diagnosis of
the text tells (`Reads.run_of_ok`), so what is printed is the same for all runs that read the same
bytes in the same order of the rules and print in the same form (`Reads.stdout_congr`,
`run_of_reads`). What a run relies on is in `Reads`, one assumption a field. The command as it
stands meets them for every combination of its switches (`reads_switches`), and with the times that
it prints (`Main.escape_not_mem_timing`). -/

namespace Lexical

/-- Why bytes are no text is told without control characters. -/
theorem Utf8.controlFree_message {bytes : List UInt8} {error : DecodeError}
    (h : decode bytes = .error error) : error.message.ControlFree := by
  rw [decode] at h
  cases hdecode : decodeFrom 0 bytes with
  | ok text =>
    rw [hdecode] at h
    cases h
  | error failure =>
    obtain ⟨start, count, reason⟩ := failure
    rw [hdecode] at h
    cases h
    have hreason : reason.message.ControlFree := by cases reason <;> decide
    unfold DecodeError.message DecodeError.place
    simp only [Text.controlFree_append]
    refine ⟨⟨⟨by decide, ?_⟩, by decide⟩, hreason⟩
    split
    · simp only [Text.controlFree_append]
      exact ⟨⟨⟨by decide, (Text.printableAscii_hex _ _).controlFree⟩, by decide⟩,
        Text.controlFree_ofInt _⟩
    · simp only [Text.controlFree_append]
      exact ⟨⟨⟨by decide, Text.controlFree_ofInt _⟩, by decide⟩, Text.controlFree_ofInt _⟩

/-- The command prints its times without control characters. -/
theorem Main.controlFree_milliseconds (nanoseconds : Nat) :
    (milliseconds nanoseconds).ControlFree := by
  have hpoint : Text.ControlFree "." := by decide
  have hpadding (text : Text) : Text.ControlFree (List.replicate (3 - text.length) '0') := by
    intro c hc
    rw [List.eq_of_mem_replicate hc]
    decide
  unfold milliseconds List.leftpad
  simp only [Text.controlFree_append]
  exact ⟨⟨Text.controlFree_ofNat _, hpoint⟩, hpadding _, Text.controlFree_ofNat _⟩

/-- What is taken for granted of the times of a run holds of those that the command prints. -/
theorem Main.escape_not_mem_timing (start scanned printed : Nat) :
    ∀ line ∈ (timing start scanned printed).lines, '\x1b' ∉ line := by
  have hline {opening : Text} (hopening : opening.ControlFree) (nanoseconds : Nat) :
      '\x1b' ∉ opening ++ milliseconds nanoseconds ++ " ms" := by
    refine Text.ControlFree.not_mem ?_ (by decide)
    simp only [Text.controlFree_append]
    exact ⟨⟨hopening, controlFree_milliseconds nanoseconds⟩, by decide⟩
  simp only [Command.Timing.lines, List.forall_mem_cons, List.not_mem_nil]
  exact ⟨hline (by decide) _, hline (by decide) _, hline (by decide) _, fun _ h => h.elim⟩

namespace Command

/-- No finding has an escape character, unless it quotes the name or the text. -/
theorem Request.escape_not_mem_findings (request : Request) {text : Text} {options : Options}
    (hname : '\x1b' ∉ request.name)
    (htext : '\x1b' ∉ text ∨
      (diagnose (request.source text) options).collector.hasErrors = false) :
    ∀ line ∈ request.findings (diagnose (request.source text) options).collector,
      '\x1b' ∉ line := by
  intro line hline
  unfold findings at hline
  split at hline
  · split at hline
    · next herrors =>
      obtain htext | hclean := htext
      · rw [List.mem_singleton.mp hline]
        exact escape_not_mem_report (request.source text) options hname htext
      · rw [hclean] at herrors
        cases herrors
    · obtain ⟨warning, hwarning, rfl⟩ := List.mem_map.mp hline
      exact not_mem_warnings (request.source text) options (by decide) hname warning hwarning
  · cases hline

/-! ### Runs on bytes -/

/-- What is taken for granted of a run on the bytes of a file or of standard input. -/
structure Reads (host : Host) (arguments : List Text) (request : Request) (file : InputFile)
    (bytes : List UInt8) : Prop where
  /-- The arguments ask for the request. -/
  parse_eq : host.parse arguments = .ok request
  /-- The request has an input of its own. -/
  input_eq : request.input = some file
  /-- The input can be read. -/
  contents_eq : file.contents = .ok bytes
  /-- Its line ends become newlines. -/
  unifies_newlines : file.unifiesNewlines = true
  lawful_stdout : host.stdout.Lawful
  lawful_stderr : host.stderr.Lawful
  /-- Times are printed as numerals, which have no escape character. -/
  plain_times : ∀ line ∈ host.timing.lines, '\x1b' ∉ line

namespace Reads

variable {host : Host} {arguments : List Text} {request : Request} {file : InputFile}
  {bytes : List UInt8} (h : Reads host arguments request file bytes)

include h

theorem text_eq : request.text = file.read := by
  rw [Request.text, h.input_eq]

theorem name_eq : request.name = file.name := by
  rw [Request.name, h.input_eq]

theorem source_eq (text : Text) : request.source text = ⟨file.name, text⟩ := by
  rw [Request.source, h.name_eq]

theorem run_eq : host.run arguments = host.fulfil request := by
  rw [Host.run, h.parse_eq]

/-- The times are told whole. -/
theorem tellAll_times :
    host.stderr.tellAll (host.times request) = .unlines (host.times request) := by
  refine h.lawful_stderr.tellAll_eq (.inr fun line hline => ?_)
  unfold Host.times at hline
  split at hline
  · exact h.plain_times line hline
  · cases hline

/-- The findings are told whole on a terminal, and if they quote no escape character. -/
theorem tellAll_findings {text : Text} {options : Options} :
    let diagnosis := diagnose ⟨file.name, text⟩ options
    (host.stderr.isTerminal = true ∨
      '\x1b' ∉ file.name ∧ ('\x1b' ∉ text ∨ diagnosis.collector.hasErrors = false)) →
    host.stderr.tellAll (request.findings diagnosis.collector) =
      .unlines (request.findings diagnosis.collector) := by
  intro diagnosis hwhole
  refine h.lawful_stderr.tellAll_eq (hwhole.imp_right fun ⟨hname, htext⟩ => ?_)
  have hdiagnosis : diagnosis = diagnose (request.source text) options := by rw [h.source_eq]
  rw [hdiagnosis] at htext ⊢
  exact request.escape_not_mem_findings (h.name_eq ▸ hname) htext

theorem run_of_error {error : DecodeError} (hdecode : Utf8.decode bytes = .error error) :
    host.run arguments =
      { exitCode := .invalidArgs
        stderr := .unlines (request.settingsLog host.settings ++
          [(Incident.undecodable error).message]) } := by
  have hmessage : '\x1b' ∉ (Incident.undecodable error).message := by
    have hopening : Text.ControlFree "Error: input is not valid UTF-8: " := by decide
    refine Text.ControlFree.not_mem ?_ (by decide)
    exact Text.controlFree_append.mpr ⟨hopening, Utf8.controlFree_message hdecode⟩
  have hreport : host.report request (.undecodable error) =
      { exitCode := .invalidArgs
        stderr := (Incident.undecodable error).message ++ ['\n'] ++ [] } := by
    rw [Host.report, Incident.report, h.lawful_stderr.tell_eq (.inr hmessage)]
    rfl
  rw [h.run_eq, Host.fulfil, h.text_eq, InputFile.read_of_error h.contents_eq hdecode,
    Text.unlines_append]
  exact congrArg _ hreport

theorem run_of_ok {decoded : Text} (hdecode : Utf8.decode bytes = .ok decoded) :
    let source : Source := ⟨file.name, decoded.unifyNewlines⟩
    let diagnosis := diagnose source (request.options host.settings)
    host.run arguments =
      { exitCode := if request.strict && diagnosis.collector.hasErrors then .lexError else .success
        stdout := Token.renderAll request.json diagnosis.tokens ++ ['\n']
        stderr := .unlines (request.settingsLog host.settings ++
            request.log source.text diagnosis ++ host.times request) ++
          host.stderr.tellAll (request.findings diagnosis.collector) } := by
  intro source diagnosis
  have htext : request.text = .ok source.text := by
    rw [h.text_eq, InputFile.read_of_ok h.contents_eq hdecode, if_pos h.unifies_newlines]
  have hprinted := h.lawful_stdout.tell_eq
    (.inr (Token.escape_not_mem_renderAll request.json diagnosis.tokens))
  rw [h.run_eq, host.fulfil_of_text htext, host.execute_eq, h.source_eq, h.tellAll_times,
    hprinted]
  simp only [Outcome.after, Text.unlines_append, List.append_assoc]
  rfl

/-- Neither strictness nor the limit of errors nor what goes to standard error has a part in what is
printed. -/
theorem stdout_congr {host' : Host} {arguments' : List Text} {request' : Request}
    {file' : InputFile} (h' : Reads host' arguments' request' file' bytes)
    (hjson : request'.json = request.json)
    (hlegacy : (request'.legacy || host'.settings.legacy) =
      (request.legacy || host.settings.legacy)) :
    (host'.run arguments').stdout = (host.run arguments).stdout := by
  cases hdecode : Utf8.decode bytes with
  | error error => rw [h.run_of_error hdecode, h'.run_of_error hdecode]
  | ok decoded =>
    have hoptions : (request'.options host'.settings).legacy =
        (request.options host.settings).legacy := hlegacy
    rw [h.run_of_ok hdecode, h'.run_of_ok hdecode]
    dsimp only
    rw [tokens_diagnose, tokens_diagnose, hjson, hoptions]

end Reads

/-! ### Every combination of switches -/

namespace Request

/-- The switches that a request is made with. -/
def switches (request : Request) : List Switch :=
  (if request.json then [.json] else []) ++ (if request.timing then [.timing] else []) ++
    (if request.strict then [.strict] else []) ++
    (if request.legacy then [.legacyDispatch] else []) ++
    if request.verbose then [.verbose] else []

theorem toRequest_switches (request : Request) (operands : List Text) :
    Arguments.toRequest ⟨request.switches, operands⟩ request.input = request := by
  obtain ⟨input, json, timing, strict, legacy, verbose⟩ := request
  cases json <;> cases timing <;> cases strict <;> cases legacy <;> cases verbose <;> rfl

end Request

theorem Arguments.parse_switches (switches : List Switch) (operand : Text) :
    parse (switches.map Switch.long ++ [['-', '-'], operand]) = .ok ⟨switches, [operand]⟩ := by
  induction switches with
  | nil => rfl
  | cons switch switches ih =>
    have hlong : switch.long ≠ ['-', '-'] ∧ isOption switch.long = true ∧
        switchesOf switch.long = .ok [switch] := by
      cases switch <;> decide
    obtain ⟨hend, hoption, hswitch⟩ := hlong
    rw [List.map_cons, List.cons_append, parse, if_neg hend, if_pos hoption, hswitch, ih]
    rfl

theorem plan_switches (request : Request) (operand : Text) :
    plan (request.switches.map Switch.long ++ [['-', '-'], operand]) =
      .scan ⟨request.switches, [operand]⟩ := by
  have hfind :
      (request.switches.find? fun switch => switch = .help ∨ switch = .version) = none := by
    obtain ⟨input, json, timing, strict, legacy, verbose⟩ := request
    cases json <;> cases timing <;> cases strict <;> cases legacy <;> cases verbose <;> rfl
  rw [plan, Arguments.parse_switches]
  dsimp only
  rw [hfind]

/-- Every combination of switches can be asked for, with every file and with standard input. -/
theorem reads_switches (settings : Settings) {timing : Timing}
    {opened : Input → Except OpenFailure (List UInt8)} (outIsTerminal errIsTerminal : Bool)
    {request : Request} {operand : Text} {bytes : List UInt8}
    (hopened : opened (.ofOperand operand) = .ok bytes)
    (hinput : request.input = some ((Input.ofOperand operand).toFile bytes))
    (htimes : ∀ line ∈ timing.lines, '\x1b' ∉ line) :
    Reads (host settings timing opened (.stripped outIsTerminal) (.stripped errIsTerminal))
      (request.switches.map Switch.long ++ [['-', '-'], operand]) request
      ((Input.ofOperand operand).toFile bytes) bytes where
  parse_eq := by
    have hopen : Arguments.input? opened [operand] = .ok request.input := by
      rw [Arguments.input?, hopened, hinput]
      rfl
    change request? opened _ _ _ = .ok request
    rw [request?, plan_switches]
    dsimp only
    rw [hopen]
    exact congrArg Except.ok (request.toRequest_switches [operand])
  input_eq := hinput
  contents_eq := rfl
  unifies_newlines := rfl
  lawful_stdout := Stream.lawful_stripped outIsTerminal
  lawful_stderr := Stream.lawful_stripped errIsTerminal
  plain_times := htimes

/-! ### The outcome -/

/-- A run on bytes that are no text is refused with nothing printed. A run on a text prints the
tokens of the scan, and the exit code says whether it was strict and errors were collected. Standard
error has the log and the times, then the findings as its stream tells them: whole on a terminal,
and on any stream if they quote no escape character. What is printed depends on the bytes, on the
form asked for and on the dispatch order alone. -/
theorem run_of_reads {host : Host} {arguments : List Text} {request : Request} {file : InputFile}
    {bytes : List UInt8} (h : Reads host arguments request file bytes) :
    let outcome := host.run arguments
    (∀ error, Utf8.decode bytes = .error error →
      outcome.stdout = [] ∧ outcome.exitCode.code = 2 ∧
        outcome.stderr = .unlines (request.settingsLog host.settings ++
          [(Incident.undecodable error).message])) ∧
    (∀ decoded, Utf8.decode bytes = .ok decoded →
      let source : Source := ⟨file.name, decoded.unifyNewlines⟩
      ∃ tokens diagnosis,
        lex source.text { legacy := request.legacy || host.settings.legacy } = .ok tokens ∧
        examine source (request.options host.settings) false = .ok diagnosis ∧
        outcome.stdout = Token.renderAll request.json tokens ++ ['\n'] ∧
        outcome.exitCode.code =
          (if request.strict && diagnosis.collector.hasErrors then 1 else 0) ∧
        outcome.stderr =
          .unlines (request.settingsLog host.settings ++ request.log source.text diagnosis ++
            host.times request) ++
          host.stderr.tellAll (request.findings diagnosis.collector) ∧
        (host.stderr.isTerminal = true ∨ '\x1b' ∉ source.name ∧
            ('\x1b' ∉ source.text ∨ diagnosis.collector.hasErrors = false) →
          host.stderr.tellAll (request.findings diagnosis.collector) =
            .unlines (request.findings diagnosis.collector))) ∧
    ∀ host' arguments' request' file',
      Reads host' arguments' request' file' bytes →
      request'.json = request.json →
      (request'.legacy || host'.settings.legacy) = (request.legacy || host.settings.legacy) →
      (host'.run arguments').stdout = outcome.stdout := by
  intro outcome
  refine ⟨fun error hdecode => ?_, fun decoded hdecode => ?_, ?_⟩
  · have houtcome : outcome = _ := h.run_of_error hdecode
    rw [houtcome]
    exact ⟨rfl, rfl, rfl⟩
  · have houtcome : outcome = _ := h.run_of_ok hdecode
    intro source
    have htokens := tokens_diagnose source (request.options host.settings)
    refine ⟨_, diagnose source (request.options host.settings), lex_eq _ _, ?_, ?_, ?_, ?_, ?_⟩
    · rw [examine_eq]
      rfl
    · rw [houtcome, htokens]
      rfl
    · rw [houtcome]
      dsimp only
      split <;> rfl
    · rw [houtcome]
    · exact h.tellAll_findings
  · intro host' arguments' request' file' h' hjson hlegacy
    exact h.stdout_congr h' hjson hlegacy

theorem run_of_reads_percent :
    let file := Input.standardInput.toFile [0x25]
    let request : Request := { input := some file, strict := true }
    let piped := host {} ⟨[], [], []⟩ fun _ => .ok [0x25]
    let outcome := piped.run ["--strict", "-"]
    Reads piped ["--strict", "-"] request file [0x25] ∧
      outcome.exitCode.code = 1 ∧
      outcome.stdout = "Token(UNKNOWN, '%')\nToken(EOF, 'EOF')\n" ∧
      outcome.stderr =
        "<stdin>:1:1: error: unknown character '%' (0x25)\n    %\n    ^\n\n" ++
          "\n1 error, 0 warnings\n" ∧
      (run ["-v", "-"] { maxErrors := some "0" } ⟨[], [], []⟩ fun _ => .ok [0x25]).stdout =
        outcome.stdout := by
  intro file request piped outcome
  have htimes : ∀ line ∈ Timing.lines ⟨[], [], []⟩, '\x1b' ∉ line := by decide
  have hlawful := Stream.lawful_stripped false
  have hreads : Reads piped ["--strict", "-"] request file [0x25] :=
    ⟨rfl, rfl, rfl, rfl, hlawful, hlawful, htimes⟩
  have hother : Reads (host { maxErrors := some "0" } ⟨[], [], []⟩ fun _ => .ok [0x25]) ["-v", "-"]
      { input := some file, verbose := true } file [0x25] :=
    ⟨rfl, rfl, rfl, rfl, hlawful, hlawful, htimes⟩
  obtain ⟨-, hdecoded, hstdout⟩ := run_of_reads hreads
  have hdecode : Utf8.decode [0x25] = .ok ['%'] := by decide +kernel
  obtain ⟨tokens, diagnosis, htokens, hdiagnosis, hprinted, hcode, hstderr, -⟩ :=
    hdecoded _ hdecode
  have hlex : lex ['%'] {} = .ok [⟨.unknown, ['%']⟩, .eof] := by decide +kernel
  have hexamine : examine ⟨"<stdin>", ['%']⟩ {} false = .ok (diagnose ⟨"<stdin>", ['%']⟩ {}) :=
    examine_eq _ _ _
  cases htokens.symm.trans hlex
  cases hdiagnosis.symm.trans hexamine
  exact ⟨hreads, hcode.trans (by decide +kernel), hprinted.trans (by decide +kernel),
    hstderr.trans (by decide +kernel), hstdout _ _ _ _ hother rfl rfl⟩

/-- A control sequence in the source is missing from the report as a stream tells it that is no
terminal. -/
theorem run_strict_control_sequence :
    let bytes : List UInt8 := [0x22, 0x1b, 0x5b, 0x6d, 0x22, 0x25]
    let file := Input.standardInput.toFile bytes
    let source : Source := ⟨file.name, "\"\x1b[m\"%"⟩
    let piped := host {} ⟨[], [], []⟩ fun _ => .ok bytes
    let outcome := piped.run ["--strict", "-"]
    Reads piped ["--strict", "-"] { input := some file, strict := true } file bytes ∧
      Utf8.decode bytes = .ok source.text ∧
      ∃ diagnosis, examine source {} false = .ok diagnosis ∧
        diagnosis.collector.hasErrors = true ∧ outcome.exitCode.code = 1 ∧
        ¬ diagnosis.collector.report <:+: outcome.stderr := by
  intro bytes file source piped outcome
  have hlawful := Stream.lawful_stripped false
  refine ⟨⟨rfl, rfl, rfl, rfl, hlawful, hlawful, by decide⟩, by decide +kernel,
    diagnose source {}, examine_eq source {} false, ?_⟩
  decide +kernel

end Command
end Lexical
