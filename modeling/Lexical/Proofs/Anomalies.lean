import Lexical.Proofs.Segmentation
import Mathlib.Data.List.Infix

/-! What a diagnosis lists. Which error and which warning belong to a segment is read off its lexeme
alone (`Segment.cause?`, `Segment.complaint?`), and these are the anomalies that the scan notes
(`anomalies_eq`). A collector that takes them one at a time ends with the first errors, as many as
its limit allows, and with all warnings (`noteAll_eq`, `examine_lists`). -/

namespace Lexical

open Reading (quote apostrophe tripleQuote commentEnd)

/-! ### Collecting within the limit -/

namespace Collector

/-- Adds errors up to the limit, and all warnings. -/
def extend (collector : Collector) (errors : List Diagnostic) (warnings : List Warning) :
    Collector :=
  { collector with
    errors := collector.errors ++
      errors.take (collector.limit - collector.errors.length).toNat
    warnings := collector.warnings ++ warnings }

theorem extend_nil (collector : Collector) : collector.extend [] [] = collector := by
  simp [extend]

theorem extend_extend (collector : Collector) (errors errors' : List Diagnostic)
    (warnings warnings' : List Warning) :
    (collector.extend errors warnings).extend errors' warnings' =
      collector.extend (errors ++ errors') (warnings ++ warnings') := by
  -- What is left of the limit after the first errors is what `take_append` leaves of its count.
  have hleft : (collector.limit - (collector.errors ++ errors.take
      (collector.limit - collector.errors.length).toNat).length).toNat =
      (collector.limit - collector.errors.length).toNat - errors.length := by
    rw [List.length_append, List.length_take]
    omega
  simp only [extend, hleft, List.take_append, List.append_assoc]

theorem note_error (source : Source) (start : Int) (collector : Collector) (cause : Cause) :
    collector.note source start (.error cause) =
      collector.extend [⟨cause, source.location start, source.line start⟩] [] := by
  rw [note, addWithin, isFull]
  by_cases hfull : collector.limit ≤ collector.errors.length
  · have hleft : (collector.limit - collector.errors.length).toNat = 0 := by omega
    simp [hfull, extend, hleft]
  · have htake : [(⟨cause, source.location start, source.line start⟩ : Diagnostic)].take
        (collector.limit - collector.errors.length).toNat =
        [⟨cause, source.location start, source.line start⟩] :=
      List.take_of_length_le (by rw [List.length_singleton]; omega)
    rw [extend, htake]
    simp [hfull, add]

theorem note_warning (source : Source) (start : Int) (collector : Collector) (message : Text) :
    collector.note source start (.warning message) =
      collector.extend [] [⟨message, source.location start⟩] := by
  simp [note, warn, extend]

end Collector

/-! ### The anomalies of a lexeme -/

namespace Segment

/-- No closing mark stands after the opening one. -/
def Lacks (segment : Segment) (opening closing : Text) : Prop :=
  ¬ closing <:+: segment.lexeme.drop opening.length

instance (segment : Segment) (opening closing : Text) : Decidable (segment.Lacks opening closing) :=
  inferInstanceAs (Decidable (¬ _))

/-- The error of a segment. A character literal that ends before its closing place is the opening
quote and the value. -/
def cause? (segment : Segment) : Option Cause :=
  match segment.reading.form with
  | .token .unknown => segment.reading.value.head?.map .unknownCharacter
  | .token .string =>
    if segment.Lacks [quote] [quote] then some (.unterminatedLiteral "string") else none
  | .token .multilineString =>
    if segment.Lacks tripleQuote tripleQuote then some (.unterminatedLiteral "multi-line string")
    else none
  | .token .character =>
    if segment.lexeme = apostrophe :: segment.reading.value then
      some (.unterminatedLiteral "character")
    else none
  | .token .documentation =>
    if segment.Lacks ['/', '*', '*'] commentEnd then some (.unterminatedComment true) else none
  | .blockComment =>
    if segment.Lacks ['/', '*'] commentEnd then some (.unterminatedComment false) else none
  | _ => none

/-- The message of the warning of a segment. The third character of a character literal stands in
the place of its closing quote. -/
def complaint? (segment : Segment) : Option Text :=
  match segment.reading.form with
  | .token .float =>
    if 1 < segment.reading.value.count '.' ∨ segment.reading.value.getLast? = some '.' then
      some ("malformed numeric literal '" ++ segment.reading.value ++ "'")
    else none
  | .token .character =>
    if segment.lexeme = [apostrophe, apostrophe] then some "empty character literal"
    else if segment.lexeme[2]?.any (· ≠ apostrophe) then
      some "character literal holds more than one character"
    else none
  | _ => none

/-- The errors of located segments in order. -/
def errors (source : Source) (located : List (Nat × Segment)) : List Diagnostic :=
  located.filterMap fun (start, segment) =>
    segment.cause?.map fun cause => ⟨cause, source.location start, source.line start⟩

/-- The warnings of located segments in order. -/
def warnings (source : Source) (located : List (Nat × Segment)) : List Warning :=
  located.filterMap fun (start, segment) =>
    segment.complaint?.map fun message => ⟨message, source.location start⟩

end Segment

namespace Body

theorem Spans.closed_iff {opening mark text lexeme following : Text}
    (h : Spans opening mark text lexeme following) (hmark : mark ≠ []) :
    (read mark text).closed = true ↔ mark <:+: lexeme.drop opening.length := by
  rw [h.lexeme_eq, List.append_assoc, List.drop_left, closing]
  cases (read mark text).closed with
  | true => exact ⟨fun _ => (List.suffix_append _ _).isInfix, fun _ => rfl⟩
  | false =>
    refine ⟨fun h => absurd h Bool.false_ne_true, fun hinfix => ?_⟩
    rw [if_neg Bool.false_ne_true, List.append_nil] at hinfix
    exact absurd hinfix (not_infix_read hmark text)

theorem Spans.flaw_eq {opening mark text lexeme following : Text}
    (h : Spans opening mark text lexeme following) (hmark : mark ≠ []) (reading : Reading) :
    (read mark text).flaw =
      if (⟨lexeme, reading⟩ : Segment).Lacks opening mark then some .unterminated else none := by
  by_cases hclosed : (read mark text).closed = true
  · have hlacks : ¬ (⟨lexeme, reading⟩ : Segment).Lacks opening mark :=
      fun hlacks => hlacks ((h.closed_iff hmark).mp hclosed)
    rw [flaw, if_pos hclosed, if_neg hlacks]
  · have hlacks : (⟨lexeme, reading⟩ : Segment).Lacks opening mark :=
      fun hinfix => hclosed ((h.closed_iff hmark).mpr hinfix)
    rw [flaw, if_neg hclosed, if_pos hlacks]

end Body

namespace Reading

/-- The reading of a text as a segment. -/
def segment (reading : Reading) (text : Text) : Segment := ⟨text.take reading.width, reading⟩

/-- What a scan notes of a reading is what its lexeme shows. -/
def Shows (reading : Reading) (text : Text) : Prop :=
  reading.anomalies =
    (reading.segment text).cause?.toList.map .error ++
      (reading.segment text).complaint?.toList.map .warning

theorem shows_word (text : Text) : (word text).Shows text := by
  unfold Shows word Token.ofWord
  split <;> rfl

theorem shows_numeral (text : Text) : (numeral text).Shows text := by
  unfold Shows numeral Token.ofNumeral
  split
  · dsimp only [anomalies, ofToken, segment, Segment.cause?, Segment.complaint?, token?,
      Anomaly.ofToken?, Anomaly.isMalformed, Option.map_none, Option.bind_some]
    simp only [Bool.or_eq_true, decide_eq_true_eq]
    split <;> rfl
  · rfl

/-- A reading whose only flaw is a missing mark. -/
theorem shows_of_flaw {reading : Reading} {text : Text} {cause : Cause} {lacks : Prop}
    [Decidable lacks] (htoken : reading.token?.bind Anomaly.ofToken? = none)
    (hflaw : reading.flaw = if lacks then some .unterminated else none)
    (hunterminated : Anomaly.ofFlaw reading.form.kind .unterminated = .error cause)
    (hcause : (reading.segment text).cause? = if lacks then some cause else none)
    (hcomplaint : (reading.segment text).complaint? = none) : reading.Shows text := by
  rw [Shows, anomalies, htoken, hflaw, hcause, hcomplaint]
  split
  · rw [Option.map_some, hunterminated]
    rfl
  · rfl

theorem shows_string (rest : Text) : (string (quote :: rest)).Shows (quote :: rest) :=
  shows_of_flaw rfl ((spans_string rest).flaw_eq (by simp) (string (quote :: rest))) rfl rfl rfl

theorem shows_multilineString (rest : Text) :
    (multilineString (tripleQuote ++ rest)).Shows (tripleQuote ++ rest) :=
  shows_of_flaw rfl ((spans_multilineString rest).flaw_eq (by simp [tripleQuote])
    (multilineString (tripleQuote ++ rest))) rfl rfl rfl

theorem shows_documentation (rest : Text) :
    (documentation ('/' :: '*' :: '*' :: rest)).Shows ('/' :: '*' :: '*' :: rest) :=
  shows_of_flaw rfl ((spans_documentation rest).flaw_eq (by simp [commentEnd])
    (documentation ('/' :: '*' :: '*' :: rest))) rfl rfl rfl

theorem shows_blockComment (rest : Text) :
    (blockComment ('/' :: '*' :: rest)).Shows ('/' :: '*' :: rest) :=
  shows_of_flaw rfl ((spans_blockComment rest).flaw_eq (by simp [commentEnd])
    (blockComment ('/' :: '*' :: rest))) rfl rfl rfl

theorem shows_character (rest : Text) :
    (character (apostrophe :: rest)).Shows (apostrophe :: rest) := by
  cases rest with
  | nil => rfl
  | cons c rest =>
    by_cases hc : c = apostrophe
    · subst hc
      rfl
    rw [character_cons hc]
    cases rest with
    | nil =>
      simp [Shows, segment, anomalies, Segment.cause?, Segment.complaint?, hc, token?,
        Anomaly.ofToken?, Anomaly.ofFlaw, Anomaly.unterminated, Anomaly.literalName?, Form.kind]
    | cons d rest =>
      by_cases hd : d = apostrophe <;>
        simp [Shows, segment, anomalies, Segment.cause?, Segment.complaint?, hd, token?,
          Anomaly.ofToken?, Anomaly.ofFlaw]

theorem shows_operator (c : Char) (rest : Text) : (operator (c :: rest)).Shows (c :: rest) := by
  obtain h | ⟨d, tail, rfl, h⟩ := operator_cons c rest
  · rw [h, operator.single]
    split <;> rfl
  · rw [h]
    rfl

theorem shows_of_fits {legacy : Bool} {text : Text} {reading : Reading}
    (h : Fits legacy text reading) : reading.Shows text := by
  cases h with
  | word => exact shows_word _
  | numeral => exact shows_numeral _
  | multilineString => exact shows_multilineString _
  | string => exact shows_string _
  | character => exact shows_character _
  | documentation => exact shows_documentation _
  | blockComment => exact shows_blockComment _
  | operator => exact shows_operator _ _
  | blanks | newline | lineComment | separator | special => rfl

end Reading

/-! ### The lists of a diagnosis -/

namespace Segment

theorem anomalies_eq {legacy : Bool} {text : Text} {segment : Segment}
    (h : segment ∈ scan legacy text) :
    segment.reading.anomalies =
      segment.cause?.toList.map .error ++ segment.complaint?.toList.map .warning := by
  obtain ⟨rest, hfits, hlexeme⟩ := fits_of_mem_scan h
  have hsegment : segment.reading.segment rest = segment := by
    rw [Reading.segment, ← hlexeme]
  have hshows := Reading.shows_of_fits hfits
  rwa [Reading.Shows, hsegment] at hshows

theorem error_mem_anomalies_iff {legacy : Bool} {text : Text} {segment : Segment}
    (h : segment ∈ scan legacy text) (cause : Cause) :
    .error cause ∈ segment.reading.anomalies ↔ segment.cause? = some cause := by
  rw [anomalies_eq h]
  cases segment.cause? <;> cases segment.complaint? <;> simp [eq_comm]

theorem warning_mem_anomalies_iff {legacy : Bool} {text : Text} {segment : Segment}
    (h : segment ∈ scan legacy text) (message : Text) :
    .warning message ∈ segment.reading.anomalies ↔ segment.complaint? = some message := by
  rw [anomalies_eq h]
  cases segment.cause? <;> cases segment.complaint? <;> simp [eq_comm]

/-- What one segment adds to a collector. -/
theorem foldl_note (source : Source) (start : Int) (collector : Collector) (cause : Option Cause)
    (complaint : Option Text) :
    (cause.toList.map Anomaly.error ++ complaint.toList.map Anomaly.warning).foldl
        (Collector.note source start) collector =
      collector.extend
        (cause.map fun cause => ⟨cause, source.location start, source.line start⟩).toList
        (complaint.map fun message => ⟨message, source.location start⟩).toList := by
  cases cause <;> cases complaint <;>
    simp [Collector.note_error, Collector.note_warning, Collector.extend_nil,
      Collector.extend_extend]

theorem errors_cons (source : Source) (start : Nat) (segment : Segment)
    (located : List (Nat × Segment)) :
    errors source ((start, segment) :: located) =
      (segment.cause?.map fun cause =>
        (⟨cause, source.location start, source.line start⟩ : Diagnostic)).toList ++
        errors source located := by
  cases h : segment.cause? <;> simp [errors, h]

theorem warnings_cons (source : Source) (start : Nat) (segment : Segment)
    (located : List (Nat × Segment)) :
    warnings source ((start, segment) :: located) =
      (segment.complaint?.map fun message =>
        (⟨message, source.location start⟩ : Warning)).toList ++ warnings source located := by
  cases h : segment.complaint? <;> simp [warnings, h]

theorem noteAll_eq (source : Source) {legacy : Bool} {text : Text} {located : List (Nat × Segment)}
    (hscan : ∀ entry ∈ located, entry.2 ∈ scan legacy text) (collector : Collector) :
    noteAll source collector located =
      collector.extend (errors source located) (warnings source located) := by
  induction located generalizing collector with
  | nil => exact collector.extend_nil.symm
  | cons entry located ih =>
    obtain ⟨start, segment⟩ := entry
    obtain ⟨hsegment, hlocated⟩ := List.forall_mem_cons.mp hscan
    rw [noteAll_cons, ih hlocated, anomalies_eq hsegment, foldl_note, Collector.extend_extend,
      errors_cons, warnings_cons]

end Segment

/-- The collector of a diagnosis keeps the first errors and all warnings. -/
theorem collector_diagnose (source : Source) (options : Options) :
    let located := Segment.locate 0 (Segment.scan options.legacy source.text)
    (diagnose source options).collector =
      { limit := options.errorLimit
        errors := (Segment.errors source located).take options.errorLimit.toNat
        warnings := Segment.warnings source located } := by
  intro located
  have hscan : ∀ entry ∈ located, entry.2 ∈ Segment.scan options.legacy source.text :=
    fun _ => Segment.mem_of_mem_locate
  have hcollector : (diagnose source options).collector =
      Segment.noteAll source { limit := options.errorLimit } located := rfl
  rw [hcollector, Segment.noteAll_eq source hscan]
  simp [Collector.extend]

/-- Each error that is kept is that of a segment, at the place where the segment starts. -/
theorem exists_of_mem_errors {source : Source} {options : Options} {error : Diagnostic}
    (h : error ∈ (diagnose source options).collector.errors) :
    ∃ start segment cause,
      (start, segment) ∈ Segment.locate 0 (Segment.scan options.legacy source.text) ∧
      segment.cause? = some cause ∧ error = ⟨cause, source.location start, source.line start⟩ := by
  rw [collector_diagnose] at h
  obtain ⟨⟨start, segment⟩, hentry, herror⟩ := List.mem_filterMap.mp (List.mem_of_mem_take h)
  obtain ⟨cause, hcause, rfl⟩ := Option.map_eq_some_iff.mp herror
  exact ⟨start, segment, cause, hentry, hcause, rfl⟩

/-! ### Where unterminated lexemes stand -/

theorem Delimited.following_eq_nil {opening closing value lexeme following : Text}
    (h : Delimited opening closing value lexeme following)
    (hlacks : ¬ closing <:+: lexeme.drop opening.length) : following = [] := by
  obtain ⟨-, hlexeme | ⟨-, hfollowing⟩⟩ := h
  · rw [hlexeme, List.append_assoc, List.drop_left] at hlacks
    exact absurd (List.suffix_append value closing).isInfix hlacks
  · exact hfollowing

/-- Nothing follows an unterminated lexeme. -/
theorem Segment.following_eq_nil {segment : Segment} {following : Text} {cause : Cause}
    (hspells : segment.reading.Spells segment.lexeme following)
    (hcause : segment.cause? = some cause)
    (hform : segment.reading.form ≠ .token .unknown) : following = [] := by
  unfold cause? at hcause
  split at hcause <;> rename_i h <;> try rw [Reading.Spells, h] at hspells
  · exact absurd h hform
  · exact hspells.following_eq_nil (Option.ite_none_right_eq_some.mp hcause).1
  · exact hspells.following_eq_nil (Option.ite_none_right_eq_some.mp hcause).1
  · have hlexeme := (Option.ite_none_right_eq_some.mp hcause).1
    obtain ⟨-, ⟨closing, hclosed⟩ | ⟨-, hfollowing⟩⟩ := hspells
    · have hlength := congrArg List.length (hlexeme.symm.trans hclosed)
      simp at hlength
    · exact hfollowing
  · obtain ⟨-, body, hbody⟩ := hspells
    exact hbody.following_eq_nil (Option.ite_none_right_eq_some.mp hcause).1
  · exact hspells.following_eq_nil (Option.ite_none_right_eq_some.mp hcause).1
  · cases hcause

/-- An examination lists the first errors and all warnings of the segments. What is unterminated
reaches the end of the source. -/
theorem examine_lists (source : Source) (options : Options) :
    let located := Segment.locate 0 (Segment.scan options.legacy source.text)
    ∃ diagnosis, examine source options false = .ok diagnosis ∧
      diagnosis.collector.errors =
        (Segment.errors source located).take options.errorLimit.toNat ∧
      diagnosis.collector.warnings = Segment.warnings source located ∧
      (Session.diagnostic source options).tokenize.2.log.map Log.collector =
        some diagnosis.collector ∧
      ∀ entry ∈ located, entry.2.reading.form ≠ .token .unknown → entry.2.cause?.isSome →
        entry.1 + entry.2.lexeme.length = source.text.length := by
  intro located
  have hcollector := collector_diagnose source options
  refine ⟨diagnose source options, ?_, ?_, ?_, ?_, fun entry hentry hform hsome => ?_⟩
  · rw [examine_eq]
    rfl
  · rw [hcollector]
  · rw [hcollector]
  · rw [Session.tokenize_eq]
    rfl
  · obtain ⟨cause, hcause⟩ := Option.isSome_iff_exists.mp hsome
    obtain ⟨following, hspells, hlength⟩ :=
      (Segment.cuts_scan options.legacy source.text).spells_of_mem hentry
    rw [Segment.following_eq_nil hspells hcause hform] at hlength
    simpa using hlength

end Lexical
