import Lexical.Proofs.Munch
import Lexical.Proofs.Places
import Lexical.Proofs.Printing

/-! The layout of a report. Nothing that a diagnosis tells has a newline in it, but for what ends
the rows of a report, so the report falls into the rows that it is made of (`splitOn_render`,
`splitOn_report`). The lexeme of an error starts with a character of the line that is shown
(`Segment.head_of_cause?`), which is the character above the caret (`report_layout`). -/

namespace Lexical

theorem Text.splitOn_ofLines {lines : List Text} (h : lines ≠ []) :
    (ofLines lines).splitOn '\n' = lines.flatMap (·.splitOn '\n') := by
  induction lines with
  | nil => exact absurd rfl h
  | cons line lines ih =>
    cases lines with
    | nil => rw [ofLines, List.intercalate_singleton, List.flatMap_singleton]
    | cons next lines =>
      have hlines : ofLines (line :: next :: lines) = line ++ '\n' :: ofLines (next :: lines) := by
        rw [ofLines, List.intercalate_cons_cons, List.append_assoc]
        rfl
      rw [hlines, List.splitOn_append_cons_self, ih (List.cons_ne_nil _ _)]
      rfl

theorem Text.flatMap_splitOn {lines : List Text} (h : ∀ line ∈ lines, '\n' ∉ line) :
    lines.flatMap (·.splitOn '\n') = lines := by
  induction lines with
  | nil => rfl
  | cons line lines ih =>
    obtain ⟨hline, hlines⟩ := List.forall_mem_cons.mp h
    rw [List.flatMap_cons, List.splitOn_eq_singleton hline, ih hlines]
    rfl

/-- The end of a literal or of a comment is missing. -/
def Cause.IsUnterminated (cause : Cause) : Prop :=
  (∃ literal, cause = .unterminatedLiteral literal) ∨
    ∃ documentation, cause = .unterminatedComment documentation

theorem Cause.isUnterminated_of_mem_missingEnds {cause : Cause} (h : cause ∈ missingEnds) :
    cause.IsUnterminated := by
  simp only [missingEnds, List.mem_cons, List.not_mem_nil, or_false] at h
  rcases h with rfl | rfl | rfl | rfl | rfl
  · exact .inl ⟨_, rfl⟩
  · exact .inl ⟨_, rfl⟩
  · exact .inl ⟨_, rfl⟩
  · exact .inr ⟨_, rfl⟩
  · exact .inr ⟨_, rfl⟩

/-- The rows of a report that tell what is wrong at a place. -/
def Diagnostic.rows : Diagnostic → List Text
  | ⟨cause, some place, some line⟩ =>
    [place.filename ++ ":" ++ .ofInt place.line ++ ":" ++ .ofInt place.column ++ ": error: " ++
        cause.message,
      "    " ++ line, List.replicate (3 + place.column).toNat ' ' ++ ['^']] ++
      (cause.hint.map ("hint: ".toList ++ ·)).toList ++ [[]]
  | _ => []

theorem Diagnostic.lines_eq_rows {cause : Cause} {place : Location} {line : Text}
    (hcolumn : 0 < place.column) (hhint : [] ∉ cause.hint) :
    let error : Diagnostic := ⟨cause, place, line⟩
    error.header :: error.excerpt ++ error.hintLine ++ [[]] = error.rows := by
  intro error
  have hhintLine : error.hintLine = (cause.hint.map ("hint: ".toList ++ ·)).toList := by
    unfold hintLine
    dsimp only [error]
    cases hgiven : cause.hint with
    | none => rfl
    | some hint =>
      cases hint with
      | nil => exact absurd hgiven hhint
      | cons c hint => rfl
  unfold header excerpt caret rows
  dsimp only [error]
  rw [hhintLine, if_pos hcolumn, Int.add_comm, Location.render]

/-- The last row of a report. -/
def summaryRow (errors warnings : Nat) : Text :=
  .ofNat errors ++ (if errors = 1 then " error" else " errors") ++ ", " ++
    .ofNat warnings ++ (if warnings = 1 then " warning" else " warnings")

theorem Collector.summary_eq (collector : Collector) :
    collector.summary = summaryRow collector.errors.length collector.warnings.length := by
  unfold summary counted summaryRow
  split <;> split <;> simp

namespace Segment

variable {legacy : Bool} {text : Text}

theorem isSome_hint_iff {segment : Segment} (h : segment ∈ scan legacy text) {cause : Cause}
    (hcause : segment.cause? = some cause) : cause.hint.isSome ↔ cause.IsUnterminated := by
  obtain ⟨c, -, rfl⟩ | hmissing := mem_of_cause? h hcause
  · refine iff_of_false Bool.false_ne_true ?_
    rintro (⟨_, ⟨⟩⟩ | ⟨_, ⟨⟩⟩)
  · have hhint : ∀ cause ∈ Cause.missingEnds, cause.hint.isSome := by decide +kernel
    exact iff_of_true (hhint cause hmissing) (Cause.isUnterminated_of_mem_missingEnds hmissing)

/-- What is wrong starts within a line: a newline is read as itself. -/
theorem head_of_cause? {entry : Nat × Segment} (h : entry ∈ locate 0 (scan legacy text))
    {cause : Cause} (hcause : entry.2.cause? = some cause) :
    ∃ c, c ≠ '\n' ∧ entry.2.lexeme.head? = some c ∧ text[entry.1]? = some c := by
  obtain ⟨hfits, hlexeme, -⟩ := fits_of_mem_locate h
  have hwidth := hfits.width_pos
  obtain ⟨c, rest, hdrop, hnext⟩ := hfits.eq_next
  refine ⟨c, ?_, ?_, ?_⟩
  · rintro rfl
    have hblank : Text.isBlank '\n' = false := rfl
    have hreading : entry.2.reading = Reading.newline := by
      rw [← hnext, Reading.next, hblank]
      rfl
    rw [Segment.cause?, hreading] at hcause
    cases hcause
  · rw [hlexeme, hdrop, List.take_cons hwidth]
    rfl
  · rw [← List.head?_drop, hdrop]
    rfl

theorem ne_unknownCharacter_newline {entry : Nat × Segment}
    (h : entry ∈ locate 0 (scan legacy text)) {cause : Cause}
    (hcause : entry.2.cause? = some cause) : cause ≠ .unknownCharacter '\n' := by
  rintro rfl
  obtain ⟨c, hc, hhead, -⟩ := head_of_cause? h hcause
  obtain ⟨d, hnewline, ⟨⟩⟩ | hmissing := mem_of_cause? (mem_of_mem_locate h) hcause
  · exact hc (Option.some.inj (hhead.symm.trans hnewline))
  · exact absurd hmissing (by decide)

end Segment

section

variable (source : Source) (options : Options) (hname : '\n' ∉ source.name)

include hname

/-- What an error is told in falls into its rows. -/
theorem splitOn_render {error : Diagnostic}
    (herror : error ∈ (diagnose source options).collector.errors) :
    error.render.splitOn '\n' ++ [[]] = error.rows := by
  have hrender := render_of_mem_errors herror
  have hlines := not_mem_lines_of_mem_errors herror (show '\n'.toNat < 0x20 by decide) hname
  obtain ⟨start, segment, cause, hentry, hcause, rfl⟩ := exists_of_mem_errors herror
  have hunknown := Segment.ne_unknownCharacter_newline hentry hcause
  have hsource : ∀ line ∈ some (source.line start), '\n' ∉ line := by
    rintro _ ⟨⟩
    exact source.newline_not_mem_line start
  rw [hrender, Text.ofLines,
    List.splitOn_intercalate _ (hlines hunknown hsource) (List.cons_ne_nil _ _)]
  refine Diagnostic.lines_eq_rows ?_ fun hempty => ?_
  · rw [source.location_natCast start]
    exact Int.lt_add_one_of_le (Int.natCast_nonneg _)
  · obtain ⟨c, -, rfl⟩ | hmissing := Segment.mem_of_cause? (Segment.mem_of_mem_locate hentry) hcause
    · cases hempty
    · have hhint : ∀ cause ∈ Cause.missingEnds, cause.hint ≠ some [] := by decide +kernel
      exact hhint cause hmissing hempty

theorem splitOn_report :
    let collector := (diagnose source options).collector
    collector.report.splitOn '\n' =
      collector.errors.flatMap Diagnostic.rows ++ collector.warnings.map Warning.render ++
        [[], summaryRow collector.errors.length collector.warnings.length] := by
  intro collector
  have herrors : (collector.errors.flatMap fun error => [error.render, []]).flatMap
      (·.splitOn '\n') = collector.errors.flatMap Diagnostic.rows := by
    rw [List.flatMap_assoc]
    exact List.flatMap_congr fun error herror => splitOn_render source options hname herror
  have hwarnings : (collector.warnings.map Warning.render).flatMap (·.splitOn '\n') =
      collector.warnings.map Warning.render :=
    Text.flatMap_splitOn <|
      List.forall_mem_map.mpr (not_mem_warnings source options (by decide) hname)
  have hsummary : '\n' ∉ collector.summary := collector.controlFree_summary.not_mem (by decide)
  have hlast : [[], collector.summary].flatMap (·.splitOn '\n') = [[], collector.summary] :=
    Text.flatMap_splitOn (by simpa using hsummary)
  rw [Collector.report, Text.splitOn_ofLines (by simp), List.flatMap_append, List.flatMap_append,
    herrors, hwarnings, hlast, Collector.summary_eq]

/-- A report has the rows of its errors in order, each with an empty row after them, a row for each
warning, an empty row and the summary. An error is at a place of the source, the row of the source
is the one of that place, and the caret stands below the character that the lexeme starts with. -/
theorem report_layout :
    ∃ diagnosis, examine source options false = .ok diagnosis ∧
      let collector := diagnosis.collector
      collector.report.splitOn '\n' =
        collector.errors.flatMap Diagnostic.rows ++ collector.warnings.map Warning.render ++
          [[], summaryRow collector.errors.length collector.warnings.length] ∧
      ∀ error ∈ collector.errors, ∃ start segment c, ∃ row column : Nat,
        (start, segment) ∈ Segment.locate 0 (Segment.scan options.legacy source.text) ∧
        segment.cause? = some error.cause ∧
        (error.cause.hint.isSome ↔ error.cause.IsUnterminated) ∧
        error.location = some ⟨source.name, row + 1, column + 1⟩ ∧
        error.sourceLine = some (source.line start) ∧
        (source.text.splitOn '\n')[row]? = some (source.line start) ∧
        segment.lexeme.head? = some c ∧ source.text[start]? = some c ∧
        ("    ".toList ++ source.line start)[3 + (column + 1)]? = some c := by
  refine ⟨diagnose source options, examine_eq source options false, ?_, fun error herror => ?_⟩
  · exact splitOn_report source options hname
  · obtain ⟨start, segment, cause, hentry, hcause, rfl⟩ := exists_of_mem_errors herror
    obtain ⟨c, hnewline, hhead, hstart⟩ := Segment.head_of_cause? hentry hcause
    obtain ⟨above, below, column, hlines, hplace, -, hdrop, -⟩ := source.exists_place start
    refine ⟨start, segment, c, above.length, column, hentry, hcause, ?_, ?_, rfl, ?_, hhead, hstart,
      ?_⟩
    · exact Segment.isSome_hint_iff (Segment.mem_of_mem_locate hentry) hcause
    · exact congrArg some hplace
    · rw [hlines, List.getElem?_append_right (Nat.le_refl _), Nat.sub_self]
      rfl
    · rw [List.getElem?_append_right (by simp; omega)]
      have hcolumn : 3 + (column + 1) - "    ".toList.length = column := by simp; omega
      rw [hcolumn]
      exact Source.getElem?_line_of_place hdrop hstart hnewline

end

theorem report_layout_percent :
    let source : Source := ⟨"demo", "a % b\n1.2.3 \"open"⟩
    let rows : List Text :=
      ["demo:1:3: error: unknown character \x27%\x27 (0x25)", "    a % b", "      ^", "",
        "demo:2:7: error: unterminated string literal", "    1.2.3 \"open", "          ^",
        "hint: add closing \" to complete the string", "",
        "demo:2:1: warning: malformed numeric literal \x271.2.3\x27", "", "2 errors, 1 warning"]
    '\n' ∉ source.name ∧ ∃ diagnosis, examine source {} false = .ok diagnosis ∧
      diagnosis.collector.report.splitOn '\n' = rows := by
  intro source rows
  have hname : '\n' ∉ source.name := by decide
  obtain ⟨diagnosis, hexamine, hrows, -⟩ := report_layout source {} hname
  refine ⟨hname, diagnosis, hexamine, ?_⟩
  have hdiagnosis : diagnosis = diagnose source {} :=
    Except.ok.inj (hexamine.symm.trans (examine_eq source {} false))
  rw [hrows, hdiagnosis]
  decide +kernel

end Lexical
