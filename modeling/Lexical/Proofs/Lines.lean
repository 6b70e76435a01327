import Lexical.Proofs.Choice
import Lexical.Proofs.Places
import Lexical.Proofs.Strict

/-! Line-wise composition. A text whose literals and comments all have their ends can be cut off
before a newline: its segments are those that it has before any further lines
(`Segment.scan_append_newline`), and what stands below keeps its columns and the texts of its lines
(`Source.location_below`, `Source.line_below`). So the tokens, errors and warnings of two texts with
a newline between them are those of the two, the lower ones moved down (`examine_append_newline`). A
diagnosis with room for all errors tells which texts have all their ends (`closed_iff`). -/

namespace Lexical

/-! ### Places in a text of two parts -/

/-- The place that many lines further down. -/
def Location.below (lines : Nat) (location : Location) : Location :=
  { location with line := location.line + lines }

/-- The error that many lines further down. -/
def Diagnostic.below (lines : Nat) (diagnostic : Diagnostic) : Diagnostic :=
  { diagnostic with location := diagnostic.location.map (.below lines) }

/-- The warning that many lines further down. -/
def Warning.below (lines : Nat) (warning : Warning) : Warning :=
  { warning with location := warning.location.map (.below lines) }

namespace Source

variable (name upper lower : Text) {offset : Nat}

theorem location_above (h : offset ≤ upper.length) :
    (⟨name, upper ++ '\n' :: lower⟩ : Source).location offset =
      (⟨name, upper⟩ : Source).location offset := by
  rw [location_natCast, location_natCast, List.take_append_of_le_length h]

theorem line_above (h : offset ≤ upper.length) :
    (⟨name, upper ++ '\n' :: lower⟩ : Source).line offset =
      (⟨name, upper⟩ : Source).line offset := by
  rw [line_natCast, line_natCast, List.take_append_of_le_length h,
    List.drop_append_of_le_length h, Text.takeWhile_append_cons rfl]

theorem take_below (offset : Nat) :
    (upper ++ '\n' :: lower).take (upper.length + 1 + offset) =
      upper ++ '\n' :: lower.take offset := by
  have hlength : upper.length + 1 + offset = upper.length + (offset + 1) := by omega
  rw [hlength, List.take_length_add_append, List.take_succ_cons]

theorem drop_below (offset : Nat) :
    (upper ++ '\n' :: lower).drop (upper.length + 1 + offset) = lower.drop offset := by
  have hlength : upper.length + 1 + offset = upper.length + (offset + 1) := by omega
  rw [hlength, List.drop_length_add_append, List.drop_succ_cons]

theorem location_below (offset : Nat) :
    (⟨name, upper ++ '\n' :: lower⟩ : Source).location (upper.length + 1 + offset : Nat) =
      ((⟨name, lower⟩ : Source).location offset).below (1 + upper.count '\n') := by
  rw [location_natCast, location_natCast, take_below, lastLine_append_newline,
    List.count_append, List.count_cons_self, Location.below]
  have hline : ((upper.count '\n' + ((lower.take offset).count '\n' + 1) : Nat) : Int) + 1 =
      ((lower.take offset).count '\n' : Int) + 1 + (1 + upper.count '\n' : Nat) := by omega
  rw [hline]

theorem line_below (offset : Nat) :
    (⟨name, upper ++ '\n' :: lower⟩ : Source).line (upper.length + 1 + offset : Nat) =
      (⟨name, lower⟩ : Source).line offset := by
  rw [line_natCast, line_natCast, take_below, drop_below, lastLine_append_newline]

end Source

/-! ### Texts without open ends -/

/-- Every literal and comment of a text has its end. -/
def Closed (legacy : Bool) (text : Text) : Prop :=
  ∀ segment ∈ Segment.scan legacy text, segment.reading.flaw ≠ some .unterminated

/-- How many errors a text has, whether they are collected or not. -/
def errorCount (legacy : Bool) (text : Text) : Nat :=
  ((Segment.scan legacy text).filterMap Segment.cause?).length

namespace Segment

theorem length_errors (source : Source) (start : Nat) (segments : List Segment) :
    (errors source (locate start segments)).length = (segments.filterMap cause?).length := by
  induction segments generalizing start with
  | nil => rfl
  | cons segment segments ih =>
    rw [locate, errors_cons, List.length_append, ih, List.filterMap_cons]
    cases segment.cause? <;> simp [Nat.add_comm]

variable {legacy : Bool} {text : Text} {segment : Segment}

theorem cause?_of_unterminated (hscan : segment ∈ scan legacy text)
    (h : segment.reading.flaw = some .unterminated) :
    segment.cause? = some (Anomaly.unterminated segment.reading.form.kind) := by
  rw [← error_mem_anomalies_iff hscan, Reading.anomalies, h]
  exact List.mem_append_left _ (List.mem_singleton_self _)

theorem cause?_of_closed (hscan : segment ∈ scan legacy text)
    (hflaw : segment.reading.flaw ≠ some .unterminated) {cause : Cause}
    (h : segment.cause? = some cause) : ∃ c, cause = .unknownCharacter c := by
  have hform := ((isSome_cause?_iff hscan).mp (Option.isSome_of_eq_some h)).resolve_right hflaw
  rw [cause?, hform] at h
  obtain ⟨c, -, rfl⟩ := Option.map_eq_some_iff.mp h
  exact ⟨c, rfl⟩

end Segment

/-- The collector of a diagnosis keeps all errors that its limit leaves room for. -/
theorem errors_diagnose {source : Source} {options : Options}
    (hlimit : errorCount options.legacy source.text ≤ options.errorLimit) :
    (diagnose source options).collector.errors =
      Segment.errors source (Segment.locate 0 (Segment.scan options.legacy source.text)) := by
  rw [errorCount, ← Segment.length_errors source 0] at hlimit
  rw [collector_diagnose]
  exact List.take_of_length_le (by omega)

/-- With room for all errors, the error of each segment is kept. -/
theorem exists_mem_errors {source : Source} {options : Options}
    (hlimit : errorCount options.legacy source.text ≤ options.errorLimit) {segment : Segment}
    (hscan : segment ∈ Segment.scan options.legacy source.text) {cause : Cause}
    (hcause : segment.cause? = some cause) :
    ∃ error ∈ (diagnose source options).collector.errors, error.cause = cause := by
  obtain ⟨start, hentry⟩ := Segment.exists_mem_locate 0 hscan
  refine ⟨⟨cause, source.location start, source.line start⟩, ?_, rfl⟩
  rw [errors_diagnose hlimit]
  exact List.mem_filterMap.mpr
    ⟨(start, segment), hentry, Option.map_eq_some_iff.mpr ⟨_, hcause, rfl⟩⟩

/-- The errors of a closed text are unknown characters. -/
theorem Closed.exists_unknownCharacter {source : Source} {options : Options}
    (h : Closed options.legacy source.text) {error : Diagnostic}
    (herror : error ∈ (diagnose source options).collector.errors) :
    ∃ c, error.cause = .unknownCharacter c := by
  obtain ⟨start, segment, cause, hentry, hcause, rfl⟩ := exists_of_mem_errors herror
  have hscan := Segment.mem_of_mem_locate hentry
  exact Segment.cause?_of_closed hscan (h _ hscan) hcause

/-- A diagnosis with room for all errors tells whether a text is closed. -/
theorem closed_iff {source : Source} {options : Options}
    (hlimit : errorCount options.legacy source.text ≤ options.errorLimit) :
    Closed options.legacy source.text ↔
      ∀ error ∈ (diagnose source options).collector.errors,
        ∃ c, error.cause = .unknownCharacter c := by
  refine ⟨fun h error herror => h.exists_unknownCharacter herror, fun h segment hscan hflaw => ?_⟩
  obtain ⟨error, herror, hcause⟩ :=
    exists_mem_errors hlimit hscan (Segment.cause?_of_unterminated hscan hflaw)
  obtain ⟨c, hc⟩ := h error herror
  rw [hcause, Anomaly.unterminated] at hc
  split at hc <;> cases hc

/-! ### The segments of a text of two parts -/

namespace Segment

variable {legacy : Bool}

theorem scan_newline (text : Text) :
    scan legacy ('\n' :: text) = ⟨['\n'], .newline⟩ :: scan legacy text :=
  scan_of_fits .newline

/-- Nothing reaches over a newline that does not have to. -/
theorem scan_append_newline {upper : Text} (h : Closed legacy upper) (lower : Text) :
    scan legacy (upper ++ '\n' :: lower) =
      scan legacy upper ++ ⟨['\n'], .newline⟩ :: scan legacy lower := by
  unfold Closed at h
  fun_induction scan legacy upper with
  | case1 => exact scan_newline lower
  | case2 c rest reading ih =>
    obtain ⟨hflaw, hrest⟩ := List.forall_mem_cons.mp h
    rw [scan_append_of_fits (Reading.fits_next legacy c rest) hflaw rfl (.inl rfl), ih hrest]
    rfl

theorem locate_add (offset start : Nat) (segments : List Segment) :
    locate (offset + start) segments =
      (locate start segments).map fun (start, segment) => (offset + start, segment) := by
  induction segments generalizing start with
  | nil => rfl
  | cons segment segments ih =>
    rw [locate, locate, Nat.add_assoc, ih]
    rfl

theorem le_of_mem_locate_scan {text : Text} {entry : Nat × Segment}
    (h : entry ∈ locate 0 (scan legacy text)) : entry.1 ≤ text.length := by
  obtain ⟨following, -, hlength⟩ := (cuts_scan legacy text).spells_of_mem h
  omega

/-- The located segments of two texts with a newline between them. -/
theorem locate_scan_append_newline {upper : Text} (h : Closed legacy upper) (lower : Text) :
    locate 0 (scan legacy (upper ++ '\n' :: lower)) =
      locate 0 (scan legacy upper) ++ (upper.length, ⟨['\n'], .newline⟩) ::
        (locate 0 (scan legacy lower)).map fun (start, segment) =>
          (upper.length + 1 + start, segment) := by
  rw [scan_append_newline h, locate_append, flatten_lexemes, Nat.zero_add, locate, ← locate_add]
  rfl

/-- What the located segments of two texts with a newline between them give, part by part. -/
theorem filterMap_locate_scan {α : Type} {upper : Text} (hclosed : Closed legacy upper)
    (lower : Text)
    {f g h : Nat × Segment → Option α} {below : α → α}
    (habove : ∀ start segment, start ≤ upper.length → f (start, segment) = g (start, segment))
    (hnewline : f (upper.length, ⟨['\n'], .newline⟩) = none)
    (hbelow : ∀ start segment,
      f (upper.length + 1 + start, segment) = (h (start, segment)).map below) :
    (locate 0 (scan legacy (upper ++ '\n' :: lower))).filterMap f =
      (locate 0 (scan legacy upper)).filterMap g ++
        ((locate 0 (scan legacy lower)).filterMap h).map below := by
  rw [locate_scan_append_newline hclosed, List.filterMap_append, List.filterMap_cons_none hnewline,
    List.filterMap_map, List.map_filterMap]
  congr 1
  · exact List.filterMap_congr fun entry hentry => habove _ _ (le_of_mem_locate_scan hentry)
  · exact List.filterMap_congr fun entry _ => hbelow _ _

variable (name : Text) {upper : Text} (hclosed : Closed legacy upper) (lower : Text)

include hclosed

theorem errors_append_newline :
    errors ⟨name, upper ++ '\n' :: lower⟩ (locate 0 (scan legacy (upper ++ '\n' :: lower))) =
      errors ⟨name, upper⟩ (locate 0 (scan legacy upper)) ++
        (errors ⟨name, lower⟩ (locate 0 (scan legacy lower))).map
          (.below (1 + upper.count '\n')) := by
  refine filterMap_locate_scan hclosed lower ?_ rfl ?_
  · intro start segment hstart
    dsimp only
    rw [Source.location_above name upper lower hstart, Source.line_above name upper lower hstart]
  · intro start segment
    dsimp only
    rw [Source.location_below name upper lower, Source.line_below name upper lower, Option.map_map]
    rfl

theorem warnings_append_newline :
    warnings ⟨name, upper ++ '\n' :: lower⟩ (locate 0 (scan legacy (upper ++ '\n' :: lower))) =
      warnings ⟨name, upper⟩ (locate 0 (scan legacy upper)) ++
        (warnings ⟨name, lower⟩ (locate 0 (scan legacy lower))).map
          (.below (1 + upper.count '\n')) := by
  refine filterMap_locate_scan hclosed lower ?_ rfl ?_
  · intro start segment hstart
    dsimp only
    rw [Source.location_above name upper lower hstart]
  · intro start segment
    dsimp only
    rw [Source.location_below name upper lower, Option.map_map]
    rfl

end Segment

theorem tokenize_append_newline {legacy : Bool} {upper : Text} (hclosed : Closed legacy upper)
    (lower : Text) :
    tokenize legacy (upper ++ '\n' :: lower) =
      (tokenize legacy upper).dropLast ++ [.newline] ++ tokenize legacy lower := by
  have hnewline : Segment.token? ⟨['\n'], .newline⟩ = some .newline := rfl
  rw [tokenize, Segment.scan_append_newline hclosed, List.filterMap_append,
    List.filterMap_cons_some hnewline, tokenize, List.dropLast_concat, tokenize]
  simp

theorem errorCount_append_newline {legacy : Bool} {upper : Text} (hclosed : Closed legacy upper)
    (lower : Text) :
    errorCount legacy (upper ++ '\n' :: lower) =
      errorCount legacy upper + errorCount legacy lower := by
  have hnewline : Segment.cause? ⟨['\n'], .newline⟩ = none := rfl
  rw [errorCount, Segment.scan_append_newline hclosed, List.filterMap_append,
    List.filterMap_cons_none hnewline, List.length_append, errorCount, errorCount]

/-- Two texts with a newline between them, if every literal and comment of the upper one has its
end: the tokens are those of the upper text, a newline and those of the lower text. A diagnosis with
room for all errors has the errors and warnings of the upper text as they are, and those of the
lower text further down by the lines of the upper one. -/
theorem examine_append_newline (name upper lower : Text) (options : Options)
    (hclosed : Closed options.legacy upper) :
    (∃ tokens following, lex upper options = .ok (tokens ++ [.eof]) ∧
      lex lower options = .ok following ∧
      lex (upper ++ '\n' :: lower) options = .ok (tokens ++ [.newline] ++ following)) ∧
    (errorCount options.legacy (upper ++ '\n' :: lower) ≤ options.errorLimit →
      ∃ above below whole, examine ⟨name, upper⟩ options false = .ok above ∧
        examine ⟨name, lower⟩ options false = .ok below ∧
        examine ⟨name, upper ++ '\n' :: lower⟩ options false = .ok whole ∧
        whole.tokens = above.tokens.dropLast ++ [.newline] ++ below.tokens ∧
        whole.collector.errors = above.collector.errors ++
          below.collector.errors.map (.below (1 + upper.count '\n')) ∧
        whole.collector.warnings = above.collector.warnings ++
          below.collector.warnings.map (.below (1 + upper.count '\n'))) := by
  refine ⟨⟨_, _, lex_eq upper options, lex_eq lower options, ?_⟩, fun hlimit => ?_⟩
  · rw [lex_eq, tokenize_append_newline hclosed, tokenize, List.dropLast_concat]
  have herrors := Segment.errors_append_newline name hclosed lower
  have hcount := errorCount_append_newline hclosed lower
  refine ⟨diagnose ⟨name, upper⟩ options, diagnose ⟨name, lower⟩ options,
    diagnose ⟨name, upper ++ '\n' :: lower⟩ options, examine_eq _ _ false, examine_eq _ _ false,
    examine_eq _ _ false, ?_, ?_, ?_⟩
  · rw [tokens_diagnose, tokens_diagnose, tokens_diagnose]
    exact tokenize_append_newline hclosed lower
  · rw [errors_diagnose hlimit, herrors, errors_diagnose, errors_diagnose]
    · show (errorCount options.legacy lower : Int) ≤ options.errorLimit
      omega
    · show (errorCount options.legacy upper : Int) ≤ options.errorLimit
      omega
  · rw [collector_diagnose, collector_diagnose, collector_diagnose]
    exact Segment.warnings_append_newline name hclosed lower

/-- An unknown character in each of the two texts, and an empty character literal in the lower one.
-/
theorem examine_append_newline_percent :
    let upper : Text := "% // a"
    let lower : Text := "'' %"
    Closed false upper ∧ errorCount false (upper ++ '\n' :: lower) ≤ ({} : Options).errorLimit ∧
      ∃ above below whole, examine ⟨"<input>", upper⟩ {} false = .ok above ∧
        examine ⟨"<input>", lower⟩ {} false = .ok below ∧
        examine ⟨"<input>", upper ++ '\n' :: lower⟩ {} false = .ok whole ∧
        whole.tokens = above.tokens.dropLast ++ [.newline] ++ below.tokens ∧
        whole.collector.errors = above.collector.errors ++
          below.collector.errors.map (.below 1) ∧
        whole.collector.warnings = above.collector.warnings ++
          below.collector.warnings.map (.below 1) := by
  intro upper lower
  have hclosed : Closed false upper := by
    unfold Closed
    decide +kernel
  have hlimit : errorCount false (upper ++ '\n' :: lower) ≤ ({} : Options).errorLimit := by
    decide +kernel
  exact ⟨hclosed, hlimit, (examine_append_newline "<input>" upper lower {} hclosed).2 hlimit⟩

end Lexical
