import Lexical.Command.Run
import Lexical.Proofs.Anomalies
import Lexical.Proofs.Execution

/-! Strictness. A strict examination fails when an error was collected, so the limit of the
collector takes part in the verdict: if it is positive, the sources that fail are the faulty ones;
if it is not, nothing is collected and every source passes. The same holds for a strict run of the
command. -/

namespace Lexical

/-- An unknown token, or a literal or comment that is flagged as unterminated. -/
def Segment.IsFaulty (segment : Segment) : Prop :=
  segment.reading.form = .token .unknown ∨ segment.reading.flaw = some .unterminated

/-- The scan of the text has a faulty segment. -/
def Faulty (legacy : Bool) (text : Text) : Prop :=
  ∃ segment ∈ Segment.scan legacy text, segment.IsFaulty

/-- A strict examination fails with a report. -/
def Rejects (source : Source) (options : Options) : Prop :=
  ∃ report, examine source options true = .error (.errorsFound report)

namespace Segment

theorem isFaulty_of_error {segment : Segment} {cause : Cause}
    (h : .error cause ∈ segment.reading.anomalies) : segment.IsFaulty := by
  rw [Reading.anomalies, List.mem_append, Option.mem_toList, Option.mem_toList] at h
  obtain h | h := h
  · obtain ⟨flaw, hflaw, herror⟩ := Option.map_eq_some_iff.mp h
    cases flaw with
    | unterminated => exact .inr hflaw
    | empty => cases herror
    | tooLong => cases herror
  · obtain ⟨token, htoken, herror⟩ := Option.bind_eq_some_iff.mp h
    rw [Reading.token?] at htoken
    split at htoken
    · rename_i kind hform
      cases htoken
      unfold Anomaly.ofToken? at herror
      split at herror
      · rename_i htoken
        obtain ⟨rfl, -⟩ := Token.mk.inj htoken
        exact .inl hform
      · split at herror <;> cases herror
      · cases herror
    · cases htoken

theorem exists_error_of_isFaulty {legacy : Bool} {text : Text} {segment : Segment}
    (hscan : segment ∈ scan legacy text) (h : segment.IsFaulty) :
    ∃ cause, .error cause ∈ segment.reading.anomalies := by
  obtain hform | hflaw := h
  · obtain ⟨rest, hfits, -⟩ := fits_of_mem_scan hscan
    obtain ⟨c, hvalue⟩ := Reading.value_eq_of_unknown hfits hform
    have htoken : segment.reading.token? = some ⟨.unknown, [c]⟩ := by
      rw [Reading.token?, hform, ← hvalue]
    refine ⟨.unknownCharacter c, List.mem_append_right _ ?_⟩
    rw [htoken]
    exact List.mem_singleton_self _
  · refine ⟨Anomaly.unterminated segment.reading.form.kind, List.mem_append_left _ ?_⟩
    rw [hflaw]
    exact List.mem_singleton_self _

theorem isSome_cause?_iff {legacy : Bool} {text : Text} {segment : Segment}
    (h : segment ∈ scan legacy text) : segment.cause?.isSome ↔ segment.IsFaulty := by
  have herror : (∃ cause, .error cause ∈ segment.reading.anomalies) ↔ segment.cause?.isSome := by
    simp only [error_mem_anomalies_iff h, Option.isSome_iff_exists]
  rw [← herror]
  exact ⟨fun ⟨_, hcause⟩ => isFaulty_of_error hcause, exists_error_of_isFaulty h⟩

theorem errors_eq_nil_iff (source : Source) (legacy : Bool) :
    errors source (locate 0 (scan legacy source.text)) = [] ↔ ¬ Faulty legacy source.text := by
  rw [errors, List.filterMap_eq_nil_iff]
  constructor
  · rintro hnone ⟨segment, hsegment, hfaulty⟩
    obtain ⟨start, hentry⟩ := exists_mem_locate 0 hsegment
    have hcause := Option.map_eq_none_iff.mp (hnone (start, segment) hentry)
    have hsome := (isSome_cause?_iff hsegment).mpr hfaulty
    rw [hcause] at hsome
    cases hsome
  · intro hfaulty entry hentry
    have hsegment := mem_of_mem_locate hentry
    rw [Option.map_eq_none_iff, Option.eq_none_iff_forall_not_mem]
    intro cause hcause
    refine hfaulty ⟨entry.2, hsegment, (isSome_cause?_iff hsegment).mp ?_⟩
    exact Option.isSome_of_mem hcause

end Segment

/-- Errors are collected from the faulty sources, if the limit is positive. -/
theorem hasErrors_diagnose (source : Source) (options : Options) :
    (diagnose source options).collector.hasErrors ↔
      0 < options.errorLimit ∧ Faulty options.legacy source.text := by
  have hnil := Segment.errors_eq_nil_iff source options.legacy
  rw [collector_diagnose, Collector.hasErrors, Bool.not_eq_true', List.isEmpty_eq_false_iff, Ne,
    List.take_eq_nil_iff, hnil]
  constructor
  · intro h
    exact ⟨by omega, Classical.not_not.mp fun hfaulty => h (.inr hfaulty)⟩
  · rintro ⟨hlimit, hfaulty⟩ (hzero | hclean)
    · omega
    · exact hclean hfaulty

theorem rejects_iff (source : Source) (options : Options) :
    Rejects source options ↔ 0 < options.errorLimit ∧ Faulty options.legacy source.text := by
  rw [← hasErrors_diagnose, Rejects, examine_eq, Bool.true_and]
  by_cases h : (diagnose source options).collector.hasErrors
  · rw [if_pos h]
    exact ⟨fun _ => h, fun _ => ⟨_, rfl⟩⟩
  · rw [if_neg h]
    refine ⟨fun ⟨_, hreport⟩ => ?_, fun herrors => absurd herrors h⟩
    cases hreport

/-! ### Strict runs of the command -/

namespace Command.Host

variable (host : Host) {request : Request} {text : Text}

theorem exitCode_execute (hstrict : request.strict = true) (text : Text) :
    (host.execute request text).exitCode = .lexError ↔
      Rejects (request.source text) (request.options host.settings) := by
  rw [rejects_iff, ← hasErrors_diagnose, execute_eq]
  dsimp only
  rw [hstrict, Bool.true_and]
  cases (diagnose (request.source text) (request.options host.settings)).collector.hasErrors <;>
    decide

/-- A strict run ends like the strict examination of the text that it scans. What it writes first
does not change how it ends. -/
theorem exitCode_run {arguments : List Text} (hparse : host.parse arguments = .ok request)
    (hstrict : request.strict = true) (htext : request.text = .ok text) :
    (host.run arguments).exitCode = .lexError ↔
      Rejects (request.source text) (request.options host.settings) := by
  rw [run, hparse]
  dsimp only
  rw [host.fulfil_of_text htext]
  exact host.exitCode_execute hstrict text

end Command.Host

/-! ### The verdict -/

/-- The faulty sources fail exactly if the limit is positive, and then so do strict runs on them,
wherever the command runs and however it is given its arguments. -/
theorem strict_rejects_iff (source : Source) (options : Options) :
    (Rejects source options ↔ 0 < options.errorLimit ∧ Faulty options.legacy source.text) ∧
      ((Rejects source options ↔ Faulty options.legacy source.text) ↔
        0 < options.errorLimit ∨ ¬ Faulty options.legacy source.text) ∧
      ∀ (host : Command.Host) arguments request,
        host.parse arguments = .ok request →
        request.strict = true →
        request.text = .ok source.text →
        request.options host.settings = options →
        ((host.run arguments).exitCode = .lexError ↔ Rejects source options) := by
  have hrejects := rejects_iff source options
  refine ⟨hrejects, ?_, ?_⟩
  · rw [hrejects]
    constructor
    · intro h
      by_cases hfaulty : Faulty options.legacy source.text
      · exact .inl (h.mpr hfaulty).1
      · exact .inr hfaulty
    · rintro (hlimit | hclean)
      · exact ⟨And.right, fun hfaulty => ⟨hlimit, hfaulty⟩⟩
      · exact ⟨And.right, fun hfaulty => absurd hfaulty hclean⟩
  · rintro host arguments request hparse hstrict htext rfl
    rw [host.exitCode_run hparse hstrict htext, rejects_iff, hrejects]
    rfl

theorem strict_rejects_iff_stdin :
    let host := Command.host { maxErrors := some "0" } ⟨[], [], []⟩ fun _ => .ok [0x25]
    let file := Command.Input.standardInput.toFile [0x25]
    let request : Command.Request := { input := some file, strict := true }
    host.parse ["--strict", "-"] = .ok request ∧
      request.text = .ok ['%'] ∧
      request.options host.settings = { errorLimit := 0 } ∧
      ((host.run ["--strict", "-"]).exitCode = .lexError ↔
        Rejects ⟨"<stdin>", ['%']⟩ { errorLimit := 0 }) := by
  intro host file request
  have hparse : host.parse ["--strict", "-"] = .ok request := rfl
  have hdecode : Utf8.decode [0x25] = .ok ['%'] := by decide +kernel
  have htext : request.text = .ok ['%'] := @Command.InputFile.read_of_ok file _ _ rfl hdecode
  have hoptions : request.options host.settings = { errorLimit := 0 } := by decide
  exact ⟨hparse, htext, hoptions,
    (strict_rejects_iff _ _).2.2 host _ request hparse rfl htext hoptions⟩

/-- A percent sign is an unknown character, and passes if no error is collected. -/
theorem not_rejects_faulty :
    Faulty false ['%'] ∧ ¬ Rejects ⟨"<input>", ['%']⟩ { errorLimit := 0 } := by
  have hform : (Reading.next false '%' []).form = .token .unknown := by decide +kernel
  have hscan : ⟨['%'].take (Reading.next false '%' []).width, Reading.next false '%' []⟩ ∈
      Segment.scan false ['%'] := by
    rw [Segment.scan_cons]
    exact List.mem_cons_self
  refine ⟨⟨_, hscan, .inl hform⟩, fun h => ?_⟩
  have hlimit := ((rejects_iff _ _).mp h).1
  exact absurd hlimit (by decide)

end Lexical
