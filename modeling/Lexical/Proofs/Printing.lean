import Lexical.Proofs.Anomalies
import Lexical.Proofs.Grammar

/-! What printed texts are made of. Numerals, names of kinds, quoted texts and JSON strings have no
character below the space (`Text.ControlFree`), so printed tokens have no escape character
(`Token.escape_not_mem_renderAll`). A control character gets into the warnings of a diagnosis by the
name of the source only (`not_mem_warnings`), and into the lines of an error by the name, by the
line of the source or as an unknown character (`not_mem_lines_of_mem_errors`). So a report has an
escape character only if the name or the text does (`escape_not_mem_report`). -/

namespace Lexical

namespace Text

/-- No character is below the space. -/
def ControlFree (text : Text) : Prop := ∀ c ∈ text, 0x20 ≤ c.toNat

instance (text : Text) : Decidable text.ControlFree :=
  List.decidableBAll (fun c : Char => 0x20 ≤ c.toNat) text

theorem ControlFree.not_mem {text : Text} (h : text.ControlFree) {control : Char}
    (hcontrol : control.toNat < 0x20) : control ∉ text :=
  fun hmem => absurd (h control hmem) (Nat.not_le_of_lt hcontrol)

theorem controlFree_nil : ControlFree [] := fun _ h => absurd h List.not_mem_nil

theorem controlFree_cons {c : Char} {text : Text} :
    ControlFree (c :: text) ↔ 0x20 ≤ c.toNat ∧ text.ControlFree := List.forall_mem_cons

theorem controlFree_append {left right : Text} :
    ControlFree (left ++ right) ↔ left.ControlFree ∧ right.ControlFree := List.forall_mem_append

theorem controlFree_flatMap {text : Text} {f : Char → Text} (h : ∀ c ∈ text, (f c).ControlFree) :
    ControlFree (text.flatMap f) := by
  intro d hd
  obtain ⟨c, hc, hd⟩ := List.mem_flatMap.mp hd
  exact h c hc d hd

/-- All characters are printable ASCII ones. -/
def PrintableAscii (text : Text) : Prop := ∀ c ∈ text, 0x20 ≤ c.toNat ∧ c.toNat ≤ 0x7E

instance (text : Text) : Decidable text.PrintableAscii :=
  List.decidableBAll (fun c : Char => 0x20 ≤ c.toNat ∧ c.toNat ≤ 0x7E) text

theorem PrintableAscii.controlFree {text : Text} (h : text.PrintableAscii) : text.ControlFree :=
  fun c hc => (h c hc).1

/-- All characters are printable ASCII ones or newlines. -/
def AsciiLines (text : Text) : Prop := ∀ c ∈ text, c = '\n' ∨ 0x20 ≤ c.toNat ∧ c.toNat ≤ 0x7E

instance (text : Text) : Decidable text.AsciiLines :=
  List.decidableBAll (fun c : Char => c = '\n' ∨ 0x20 ≤ c.toNat ∧ c.toNat ≤ 0x7E) text

theorem PrintableAscii.asciiLines {text : Text} (h : text.PrintableAscii) : text.AsciiLines :=
  fun c hc => .inr (h c hc)

theorem asciiLines_append {left right : Text} :
    AsciiLines (left ++ right) ↔ left.AsciiLines ∧ right.AsciiLines := List.forall_mem_append

/-! ### Numerals -/

theorem printable_digitChar {d : Nat} (h : d < 16) :
    0x20 ≤ (Nat.digitChar d).toNat ∧ (Nat.digitChar d).toNat ≤ 0x7E := by
  have hall : ∀ d < 16, 0x20 ≤ (Nat.digitChar d).toNat ∧ (Nat.digitChar d).toNat ≤ 0x7E := by decide
  exact hall d h

theorem le_toNat_toUpper_digitChar {d : Nat} (h : d < 16) :
    0x20 ≤ (Nat.digitChar d).toUpper.toNat := by
  have hall : ∀ d < 16, 0x20 ≤ (Nat.digitChar d).toUpper.toNat := by decide
  exact hall d h

theorem exists_digitChar_of_mem_toDigits {base n : Nat} (hbase : 1 < base) {c : Char}
    (h : c ∈ Nat.toDigits base n) : ∃ d < base, c = Nat.digitChar d := by
  induction n using Nat.strongRecOn with
  | ind n ih =>
    rw [Nat.toDigits_eq_if hbase] at h
    split at h
    · exact ⟨n, ‹_›, List.mem_singleton.mp h⟩
    · obtain h | h := List.mem_append.mp h
      · exact ih (n / base) (Nat.div_lt_self (by omega) hbase) h
      · exact ⟨n % base, Nat.mod_lt n (by omega), List.mem_singleton.mp h⟩

theorem controlFree_ofNat (n : Nat) : (ofNat n).ControlFree := by
  intro c hc
  obtain ⟨d, hd, rfl⟩ := exists_digitChar_of_mem_toDigits (by decide) hc
  exact (printable_digitChar (by omega)).1

theorem controlFree_ofInt (n : Int) : (ofInt n).ControlFree := by
  cases n with
  | ofNat n => exact controlFree_ofNat n
  | negSucc n => exact controlFree_cons.mpr ⟨by decide, controlFree_ofNat (n + 1)⟩

theorem exists_digitChar_of_mem_hex {width n : Nat} {c : Char} (h : c ∈ hex width n) :
    ∃ d < 16, c = Nat.digitChar d := by
  induction width generalizing n with
  | zero => exact absurd h List.not_mem_nil
  | succ width ih =>
    obtain h | h := List.mem_append.mp h
    · exact ih h
    · exact ⟨n % 16, Nat.mod_lt n (by decide), List.mem_singleton.mp h⟩

theorem printableAscii_hex (width n : Nat) : (hex width n).PrintableAscii := by
  intro c hc
  obtain ⟨d, hd, rfl⟩ := exists_digitChar_of_mem_hex hc
  exact printable_digitChar hd

theorem controlFree_upperHex (n : Nat) : (upperHex n).ControlFree := by
  intro c hc
  obtain ⟨d, hd, rfl⟩ := List.mem_map.mp hc
  obtain hpad | hdigit := List.mem_append.mp hd
  · obtain ⟨-, rfl⟩ := List.mem_replicate.mp hpad
    decide
  · obtain ⟨n, hn, rfl⟩ := exists_digitChar_of_mem_toDigits (by decide) hdigit
    exact le_toNat_toUpper_digitChar hn

/-! ### Quoted texts and JSON strings -/

theorem le_toNat_of_isPrintable {c : Char} (h : isPrintable c = true) : 0x20 ≤ c.toNat := by
  by_contra hlow
  have hcontrol : unprintables.has c = true :=
    Ranges.has_iff.mpr ⟨(0x0, 0x1F), List.mem_cons_self, Nat.zero_le _, by omega⟩
  rw [isPrintable, hcontrol] at h
  cases h

theorem controlFree_numericEscape (c : Char) : (numericEscape c).ControlFree := by
  fun_cases numericEscape c <;> simp [controlFree_cons, (printableAscii_hex _ _).controlFree]

theorem controlFree_escape {delimiter : Char} (hdelimiter : 0x20 ≤ delimiter.toNat) (c : Char) :
    (escape delimiter c).ControlFree := by
  fun_cases escape delimiter c with
  | case1 h =>
    obtain rfl | rfl := h
    · simp [controlFree_cons, controlFree_nil, hdelimiter]
    · decide
  | case2 | case3 | case4 => decide
  | case5 _ _ _ _ h => exact controlFree_cons.mpr ⟨le_toNat_of_isPrintable h, controlFree_nil⟩
  | case6 => exact controlFree_numericEscape c

theorem controlFree_quoted (text : Text) : text.quoted.ControlFree := by
  have hdelimiter : 0x20 ≤ (delimiter text).toNat := by
    unfold delimiter
    split <;> decide
  have hbody := controlFree_flatMap fun c (_ : c ∈ text) => controlFree_escape hdelimiter c
  have hend : ControlFree [delimiter text] := controlFree_cons.mpr ⟨hdelimiter, controlFree_nil⟩
  exact controlFree_append.mpr ⟨controlFree_cons.mpr ⟨hdelimiter, hbody⟩, hend⟩

theorem printableAscii_unicodeEscape (unit : Nat) : (unicodeEscape unit).PrintableAscii :=
  List.forall_mem_cons.mpr
    ⟨by decide, List.forall_mem_cons.mpr ⟨by decide, printableAscii_hex 4 unit⟩⟩

theorem printableAscii_jsonEscape (c : Char) : (jsonEscape c).PrintableAscii := by
  fun_cases jsonEscape c with
  | case1 | case2 | case3 | case4 | case5 | case6 | case7 => decide
  | case8 _ _ _ _ _ _ _ h => exact List.forall_mem_singleton.mpr h
  | case9 => exact printableAscii_unicodeEscape _
  | case10 =>
    exact List.forall_mem_append.mpr
      ⟨printableAscii_unicodeEscape _, printableAscii_unicodeEscape _⟩

theorem printableAscii_jsonString (text : Text) : text.jsonString.PrintableAscii := by
  intro c hc
  obtain hc | hc := List.mem_append.mp hc
  · obtain rfl | hc := List.mem_cons.mp hc
    · decide
    · obtain ⟨d, -, hc⟩ := List.mem_flatMap.mp hc
      exact printableAscii_jsonEscape d c hc
  · rw [List.mem_singleton.mp hc]
    decide

theorem forall_mem_intercalate {p : Char → Prop} {separator : Text} {lines : List Text}
    (hseparator : ∀ c ∈ separator, p c) (hlines : ∀ line ∈ lines, ∀ c ∈ line, p c) :
    ∀ c ∈ List.intercalate separator lines, p c := by
  induction lines with
  | nil => exact fun c h => absurd h List.not_mem_nil
  | cons line lines ih =>
    obtain ⟨hline, hlines⟩ := List.forall_mem_cons.mp hlines
    cases lines with
    | nil => simpa using hline
    | cons next lines =>
      rw [List.intercalate_cons_cons, List.forall_mem_append, List.forall_mem_append]
      exact ⟨⟨hline, hseparator⟩, ih hlines⟩

theorem not_mem_intercalate {separator : Text} {lines : List Text} {c : Char}
    (hseparator : c ∉ separator) (hlines : ∀ line ∈ lines, c ∉ line) :
    c ∉ List.intercalate separator lines := by
  have hall : ∀ d ∈ List.intercalate separator lines, d ≠ c :=
    forall_mem_intercalate (fun d hd => ne_of_mem_of_not_mem hd hseparator)
      fun line hline d hd => ne_of_mem_of_not_mem hd (hlines line hline)
  exact fun h => hall c h rfl

end Text

/-! ### Printed tokens -/

theorem Kind.controlFree_name (kind : Kind) : kind.name.ControlFree := by
  cases kind <;> decide

namespace Token

theorem controlFree_render (token : Token) : token.render.ControlFree := by
  unfold render
  simp only [Text.controlFree_append]
  exact ⟨⟨⟨⟨by decide, token.kind.controlFree_name⟩, by decide⟩, Text.controlFree_quoted _⟩,
    by decide⟩

theorem asciiLines_renderObject (token : Token) : token.renderObject.AsciiLines := by
  have hname := (Text.printableAscii_jsonString token.kind.name).asciiLines
  have hvalue := (Text.printableAscii_jsonString token.value).asciiLines
  unfold renderObject
  simp only [Text.asciiLines_append]
  exact ⟨⟨⟨⟨by decide, hname⟩, by decide⟩, hvalue⟩, by decide⟩

theorem asciiLines_renderJson (tokens : List Token) : (renderJson tokens).AsciiLines := by
  cases tokens with
  | nil => decide
  | cons token tokens =>
    have hobjects : Text.AsciiLines <|
        List.intercalate [',', '\n'] ((token :: tokens).map renderObject) := by
      have hseparator : Text.AsciiLines [',', '\n'] := by decide
      refine Text.forall_mem_intercalate hseparator fun line hline => ?_
      obtain ⟨token, -, rfl⟩ := List.mem_map.mp hline
      exact token.asciiLines_renderObject
    exact Text.asciiLines_append.mpr
      ⟨Text.asciiLines_append.mpr ⟨by decide, hobjects⟩, by decide⟩

theorem escape_not_mem_renderAll (json : Bool) (tokens : List Token) :
    '\x1b' ∉ renderAll json tokens := by
  cases json with
  | false =>
    refine Text.not_mem_intercalate (by decide) fun line hline => ?_
    obtain ⟨token, -, rfl⟩ := List.mem_map.mp hline
    exact token.controlFree_render.not_mem (by decide)
  | true =>
    intro h
    obtain hnewline | hprintable := asciiLines_renderJson tokens _ h
    · exact absurd hnewline (by decide)
    · exact absurd hprintable (by decide)

end Token

/-! ### Told places and messages -/

theorem Source.line_subset (source : Source) (offset : Int) : source.line offset ⊆ source.text := by
  intro c hc
  obtain hc | hc := List.mem_append.mp hc
  · have hreverse := List.takeWhile_subset _ (List.mem_reverse.mp hc)
    exact List.mem_of_mem_take (List.mem_reverse.mp hreverse)
  · exact List.mem_of_mem_drop (List.takeWhile_subset _ hc)

variable {control : Char} (hcontrol : control.toNat < 0x20)

include hcontrol in
theorem Location.not_mem_render {location : Location} (h : control ∉ location.filename) :
    control ∉ location.render := by
  have hline := (Text.controlFree_ofInt location.line).not_mem hcontrol
  have hcolumn := (Text.controlFree_ofInt location.column).not_mem hcontrol
  have hcolon := (by decide : Text.ControlFree [':']).not_mem hcontrol
  unfold render
  simp only [List.mem_append, not_or]
  exact ⟨⟨⟨⟨h, hcolon⟩, hline⟩, hcolon⟩, hcolumn⟩

include hcontrol in
theorem Warning.not_mem_render {warning : Warning} (hmessage : warning.message.ControlFree)
    (hlocation : ∀ location ∈ warning.location, control ∉ location.filename) :
    control ∉ warning.render := by
  have hmessage := hmessage.not_mem hcontrol
  unfold render
  split
  · next location hlocated =>
    have hword := (by decide : Text.ControlFree ": warning: ").not_mem hcontrol
    simp only [List.mem_append, not_or]
    exact ⟨⟨Location.not_mem_render hcontrol (hlocation location hlocated), hword⟩, hmessage⟩
  · have hword := (by decide : Text.ControlFree "warning: ").not_mem hcontrol
    simp only [List.mem_append, not_or]
    exact ⟨hword, hmessage⟩

namespace Diagnostic

variable {diagnostic : Diagnostic} (hmessage : control ∉ diagnostic.cause.message)
  (hlocation : ∀ location ∈ diagnostic.location, control ∉ location.filename)
  (hsource : ∀ line ∈ diagnostic.sourceLine, control ∉ line)
  (hhint : ∀ hint ∈ diagnostic.cause.hint, control ∉ hint)

include hcontrol hmessage hlocation in
theorem not_mem_header : control ∉ diagnostic.header := by
  unfold header
  split
  · next location hlocated =>
    have hword := (by decide : Text.ControlFree ": error: ").not_mem hcontrol
    simp only [List.mem_append, not_or]
    exact ⟨⟨Location.not_mem_render hcontrol (hlocation location hlocated), hword⟩, hmessage⟩
  · have hword := (by decide : Text.ControlFree "error: ").not_mem hcontrol
    simp only [List.mem_append, not_or]
    exact ⟨hword, hmessage⟩

include hcontrol in
theorem not_mem_caret (column : Int) : ∀ line ∈ caret column, control ∉ line := by
  unfold caret
  split
  · intro line hline
    have hmark := (by decide : Text.ControlFree [' ', '^']).not_mem hcontrol
    rw [List.mem_singleton.mp hline, List.mem_append, List.mem_replicate]
    rintro (⟨-, rfl⟩ | hcaret)
    · exact hmark List.mem_cons_self
    · exact hmark (List.mem_cons_of_mem _ hcaret)
  · exact fun _ h => absurd h List.not_mem_nil

include hcontrol hsource in
theorem not_mem_excerpt : ∀ line ∈ diagnostic.excerpt, control ∉ line := by
  unfold excerpt
  split
  · next location line hlocated hline =>
    have hindent := (by decide : Text.ControlFree "    ").not_mem hcontrol
    refine List.forall_mem_cons.mpr ⟨?_, not_mem_caret hcontrol location.column⟩
    rw [List.mem_append, not_or]
    exact ⟨hindent, hsource line hline⟩
  · exact fun _ h => absurd h List.not_mem_nil

include hcontrol hhint in
theorem not_mem_hintLine : ∀ line ∈ diagnostic.hintLine, control ∉ line := by
  unfold hintLine
  split
  · next c hint hgiven =>
    intro line hline
    have hword := (by decide : Text.ControlFree "hint: ").not_mem hcontrol
    rw [List.mem_singleton.mp hline, List.mem_append, not_or]
    exact ⟨hword, hhint _ hgiven⟩
  · exact fun _ h => absurd h List.not_mem_nil

include hcontrol hmessage hlocation hsource hhint in
/-- The lines that an error is told in. -/
theorem not_mem_lines :
    ∀ line ∈ diagnostic.header :: diagnostic.excerpt ++ diagnostic.hintLine, control ∉ line := by
  intro line hline
  obtain hline | hline := List.mem_append.mp hline
  · obtain rfl | hline := List.mem_cons.mp hline
    · exact not_mem_header hcontrol hmessage hlocation
    · exact not_mem_excerpt hcontrol hsource line hline
  · exact not_mem_hintLine hcontrol hhint line hline

end Diagnostic

/-! ### The messages of a scan -/

theorem Text.le_toNat_of_isDecimal {c : Char} (h : isDecimal c = true) : 0x20 ≤ c.toNat := by
  have hlow : ∀ r ∈ decimals, 0x20 ≤ r.1 := by decide +kernel
  obtain ⟨r, hr, hle, -⟩ := Ranges.has_iff.mp h
  exact (hlow r hr).trans hle

namespace Cause

/-- The causes of a scan that say which end is missing. -/
def missingEnds : List Cause :=
  [.unterminatedLiteral "string", .unterminatedLiteral "multi-line string",
   .unterminatedLiteral "character", .unterminatedComment true, .unterminatedComment false]

theorem controlFree_missingEnds :
    ∀ cause ∈ missingEnds, cause.message.ControlFree ∧ ∀ hint ∈ cause.hint, hint.ControlFree := by
  decide +kernel

end Cause

namespace Segment

variable {legacy : Bool} {text : Text} {segment : Segment}

theorem lexeme_subset (h : segment ∈ scan legacy text) : segment.lexeme ⊆ text := by
  intro c hc
  rw [← flatten_lexemes legacy text]
  exact List.mem_flatten_of_mem (List.mem_map_of_mem h) hc

theorem controlFree_value_float (h : segment ∈ scan legacy text)
    (hform : segment.reading.form = .token .float) : segment.reading.value.ControlFree := by
  obtain ⟨rest, hfits, -⟩ := fits_of_mem_scan h
  have htoken : segment.reading.token? = some ⟨.float, segment.reading.value⟩ := by
    rw [Reading.token?, hform]
  obtain ⟨-, hall, -⟩ | ⟨hopen, -⟩ := hfits.wellFormed htoken
  · intro c hc
    obtain hdecimal | rfl := hall c hc
    · exact Text.le_toNat_of_isDecimal hdecimal
    · decide
  · cases hopen

/-- A cause is an unknown character, which the lexeme is, or one of the five missing ends. -/
theorem mem_of_cause? (h : segment ∈ scan legacy text) {cause : Cause}
    (hcause : segment.cause? = some cause) :
    (∃ c, segment.lexeme.head? = some c ∧ cause = .unknownCharacter c) ∨
      cause ∈ Cause.missingEnds := by
  unfold cause? at hcause
  split at hcause
  · next hform =>
    obtain ⟨start, hentry⟩ := exists_mem_locate 0 h
    obtain ⟨following, hspells, -⟩ := (cuts_scan legacy text).spells_of_mem hentry
    rw [Reading.Spells, hform] at hspells
    obtain ⟨c, hc, rfl⟩ := Option.map_eq_some_iff.mp hcause
    exact .inl ⟨c, hspells ▸ hc, rfl⟩
  iterate 5
    · split at hcause <;> cases hcause
      exact .inr (by decide)
  · cases hcause

/-- Only a message about an unknown character can have a control character. -/
theorem not_mem_message (h : segment ∈ scan legacy text) {cause : Cause}
    (hcause : segment.cause? = some cause) {control : Char} (hcontrol : control.toNat < 0x20)
    (hunknown : cause ≠ .unknownCharacter control) :
    control ∉ cause.message ∧ ∀ hint ∈ cause.hint, control ∉ hint := by
  obtain ⟨c, hc, rfl⟩ | hmissing := mem_of_cause? h hcause
  · have hcode := (Text.controlFree_upperHex c.toNat).not_mem hcontrol
    have hopening := (by decide : Text.ControlFree "unknown character '").not_mem hcontrol
    have hmiddle := (by decide : Text.ControlFree "' (0x").not_mem hcontrol
    have hclosing := (by decide : Text.ControlFree ")").not_mem hcontrol
    refine ⟨?_, fun _ hhint => by cases hhint⟩
    unfold Cause.message
    simp only [List.mem_append, List.mem_cons, not_or]
    exact ⟨⟨⟨hopening, fun hc => hunknown (hc ▸ rfl), hmiddle⟩, hcode⟩, hclosing⟩
  · obtain ⟨hmessage, hhint⟩ := Cause.controlFree_missingEnds cause hmissing
    exact ⟨hmessage.not_mem hcontrol, fun hint hgiven => (hhint hint hgiven).not_mem hcontrol⟩

theorem controlFree_complaint (h : segment ∈ scan legacy text) {message : Text}
    (hcomplaint : segment.complaint? = some message) : message.ControlFree := by
  unfold complaint? at hcomplaint
  split at hcomplaint
  · next hform =>
    split at hcomplaint <;> cases hcomplaint
    simp only [Text.controlFree_append]
    exact ⟨⟨by decide, controlFree_value_float h hform⟩, by decide⟩
  · split at hcomplaint
    · cases hcomplaint
      decide
    · split at hcomplaint <;> cases hcomplaint
      decide
  · cases hcomplaint

end Segment

/-! ### Reports and warnings -/

theorem Collector.controlFree_summary (collector : Collector) : collector.summary.ControlFree := by
  have hcounted : ∀ (n : Nat) (noun : Text), noun.ControlFree → (counted n noun).ControlFree := by
    intro n noun hnoun
    unfold counted
    simp only [Text.controlFree_append]
    refine ⟨⟨⟨Text.controlFree_ofNat n, by decide⟩, hnoun⟩, ?_⟩
    split <;> decide
  unfold summary
  simp only [Text.controlFree_append]
  exact ⟨⟨hcounted _ _ (by decide), by decide⟩, hcounted _ _ (by decide)⟩

variable (source : Source) (options : Options)

theorem not_mem_warnings {control : Char} (hcontrol : control.toNat < 0x20)
    (hname : control ∉ source.name) :
    ∀ warning ∈ (diagnose source options).collector.warnings, control ∉ warning.render := by
  rw [collector_diagnose]
  intro warning hwarning
  obtain ⟨⟨start, segment⟩, hentry, hwarning⟩ := List.mem_filterMap.mp hwarning
  obtain ⟨message, hcomplaint, rfl⟩ := Option.map_eq_some_iff.mp hwarning
  refine Warning.not_mem_render hcontrol ?_ ?_
  · exact Segment.controlFree_complaint (Segment.mem_of_mem_locate hentry) hcomplaint
  · rintro _ ⟨⟩
    exact hname

section

variable {source : Source} {options : Options} {error : Diagnostic}
  (herror : error ∈ (diagnose source options).collector.errors)

include herror

/-- An error is told in lines, as none of a scan is a report of its own. -/
theorem render_of_mem_errors :
    error.render = .ofLines (error.header :: error.excerpt ++ error.hintLine) := by
  obtain ⟨start, segment, cause, hentry, hcause, rfl⟩ := exists_of_mem_errors herror
  obtain ⟨c, -, rfl⟩ | hmissing := Segment.mem_of_cause? (Segment.mem_of_mem_locate hentry) hcause
  · rfl
  · simp only [Cause.missingEnds, List.mem_cons, List.not_mem_nil, or_false] at hmissing
    rcases hmissing with rfl | rfl | rfl | rfl | rfl <;> rfl

/-- The lines of an error quote the name, the message and the line of the source. -/
theorem not_mem_lines_of_mem_errors {control : Char} (hcontrol : control.toNat < 0x20)
    (hname : control ∉ source.name) (hunknown : error.cause ≠ .unknownCharacter control)
    (hsource : ∀ line ∈ error.sourceLine, control ∉ line) :
    ∀ line ∈ error.header :: error.excerpt ++ error.hintLine, control ∉ line := by
  obtain ⟨start, segment, cause, hentry, hcause, rfl⟩ := exists_of_mem_errors herror
  obtain ⟨hmessage, hhint⟩ :=
    Segment.not_mem_message (Segment.mem_of_mem_locate hentry) hcause hcontrol hunknown
  refine Diagnostic.not_mem_lines hcontrol hmessage ?_ hsource hhint
  rintro _ ⟨⟩
  exact hname

theorem escape_not_mem_render (hname : '\x1b' ∉ source.name) (htext : '\x1b' ∉ source.text) :
    '\x1b' ∉ error.render := by
  rw [render_of_mem_errors herror]
  refine Text.not_mem_intercalate (by decide) ?_
  obtain ⟨start, segment, cause, hentry, hcause, rfl⟩ := exists_of_mem_errors herror
  refine not_mem_lines_of_mem_errors herror (by decide) hname ?_ ?_
  · rintro rfl
    have hsegment := Segment.mem_of_mem_locate hentry
    obtain ⟨c, hc, ⟨⟩⟩ | hmissing := Segment.mem_of_cause? hsegment hcause
    · exact htext (Segment.lexeme_subset hsegment (List.mem_of_mem_head? hc))
    · exact absurd hmissing (by decide)
  · rintro _ ⟨⟩
    exact fun h => htext (source.line_subset start h)

end

theorem escape_not_mem_report (hname : '\x1b' ∉ source.name) (htext : '\x1b' ∉ source.text) :
    '\x1b' ∉ (diagnose source options).collector.report := by
  refine Text.not_mem_intercalate (by decide) fun line hline => ?_
  obtain hline | hline := List.mem_append.mp hline
  · obtain hline | hline := List.mem_append.mp hline
    · obtain ⟨error, herror, hline⟩ := List.mem_flatMap.mp hline
      obtain rfl | hline := List.mem_cons.mp hline
      · exact escape_not_mem_render herror hname htext
      · rw [List.mem_singleton.mp hline]
        exact List.not_mem_nil
    · obtain ⟨warning, hwarning, rfl⟩ := List.mem_map.mp hline
      exact not_mem_warnings source options (by decide) hname warning hwarning
  · obtain rfl | hline := List.mem_cons.mp hline
    · exact List.not_mem_nil
    · rw [List.mem_singleton.mp hline]
      exact (Collector.controlFree_summary _).not_mem (by decide)

end Lexical
