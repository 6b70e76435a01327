import Lexical.Segment
import Lexical.Text.Classes

/-! The choice of a rule. Exactly one rule fits a text (`Fits.eq_next`), so a rule that is known to
fit tells the first segment of a scan (`scan_of_fits`). A reading that has its end does not look
past white space: a newline and what follows it change no such reading, a blank and what follows it
none but blanks and line comments (`Fits.append`, `scan_append_of_fits`). -/

namespace Lexical

namespace Body

theorem closed_of_flaw {body : Body} (h : body.flaw ≠ some .unterminated) : body.closed = true := by
  rw [← Bool.not_eq_false]
  intro hclosed
  exact h (by simp [flaw, hclosed])

theorem read_append {mark text : Text} (h : (read mark text).closed = true) (more : Text) :
    read mark (text ++ more) = read mark text := by
  cases hbefore : Text.before? mark text with
  | none => simp [read, hbefore] at h
  | some body => rw [read, read, hbefore, Text.before?_append hbefore]

/-- A body that is closed, after an opening mark, is the same with more text after it. -/
theorem read_drop_append {mark text : Text} {opening : Nat} (hlength : opening ≤ text.length)
    (h : (read mark (text.drop opening)).flaw ≠ some .unterminated) (more : Text) :
    read mark ((text ++ more).drop opening) = read mark (text.drop opening) := by
  rw [List.drop_append_of_le_length hlength, read_append (closed_of_flaw h)]

theorem length_read (mark text : Text) :
    (read mark text).text.length + ((read mark text).closing mark).length ≤ text.length := by
  obtain ⟨rest, htext, -⟩ := append_read mark text
  have hlength := congrArg List.length htext
  rw [List.length_append, List.length_append] at hlength
  omega

theorem length_closing {body : Body} (h : body.closed = true) (mark : Text) :
    (body.closing mark).length = mark.length := by
  rw [closing, if_pos h]

end Body

namespace Reading

/-- The characters that the rules know one by one. -/
def marks : List Char :=
  [quote, apostrophe] ++ Token.operators.filterMap List.head? ++ Token.separators ++ Token.specials

theorem of_mem_marks {c : Char} (h : c ∈ marks) :
    Text.isSpace c = false ∧ Text.isLetter c = false ∧ Text.isDecimal c = false ∧ c ≠ '.' := by
  have hmarks : marks.all fun c =>
      !Text.isSpace c && !Text.isLetter c && !Text.isDecimal c && c != '.' := by decide +kernel
  simpa [and_assoc] using List.all_eq_true.mp hmarks c h

/-! ### One rule fits -/

/-- The class rules pass a mark over. -/
theorem next_of_mem_marks {c : Char} (h : c ∈ marks) (legacy : Bool) (rest : Text) :
    next legacy c rest =
      if !legacy && atTripleQuote (c :: rest) then multilineString (c :: rest)
      else if c = quote then string (c :: rest)
      else if c = apostrophe then character (c :: rest)
      else if c = '/' ∧ (rest.head? = some '/' ∨ rest.head? = some '*') then comment (c :: rest)
      else if c ∈ Token.separators then ofToken ⟨.separator, [c]⟩
      else if c ∈ Token.specials then ofToken ⟨.special, [c]⟩
      else operator (c :: rest) := by
  obtain ⟨hspace, hletter, hdecimal, hdot⟩ := of_mem_marks h
  simp [next, Text.isBlank_eq_false hspace, Text.ne_newline hspace, hletter, hdecimal, hdot]

theorem atTripleQuote_eq_false {c : Char} (hc : c ≠ quote) (rest : Text) :
    atTripleQuote (c :: rest) = false := by
  simp [atTripleQuote, tripleQuote, List.isPrefixOf, Ne.symm hc]

theorem next_slash (legacy : Bool) {rest : Text}
    (h : rest.head? = some '/' ∨ rest.head? = some '*') :
    next legacy '/' rest = comment ('/' :: rest) := by
  rw [next_of_mem_marks (by decide), atTripleQuote_eq_false (by decide), Bool.and_false,
    if_neg Bool.false_ne_true, if_neg (by decide), if_neg (by decide), if_pos ⟨rfl, h⟩]

theorem next_of_mem_tables {c : Char} (h : c ∈ Token.separators ++ Token.specials) (legacy : Bool)
    (rest : Text) :
    next legacy c rest =
      if c ∈ Token.separators then ofToken ⟨.separator, [c]⟩
      else if c ∈ Token.specials then ofToken ⟨.special, [c]⟩
      else operator (c :: rest) := by
  have hmark : c ∈ marks := by
    rw [marks, List.append_assoc]
    exact List.mem_append_right _ h
  have hquote : c ≠ quote := ne_of_mem_of_not_mem h (by decide)
  have hapostrophe : c ≠ apostrophe := ne_of_mem_of_not_mem h (by decide)
  have hslash : c ≠ '/' := ne_of_mem_of_not_mem h (by decide)
  rw [next_of_mem_marks hmark, atTripleQuote_eq_false hquote, Bool.and_false,
    if_neg Bool.false_ne_true, if_neg hquote, if_neg hapostrophe,
    if_neg fun hcomment => hslash hcomment.1]

/-- No other rule comes before the one that fits. -/
theorem Fits.eq_next {legacy : Bool} {text : Text} {reading : Reading}
    (h : Fits legacy text reading) : ∃ c rest, text = c :: rest ∧ next legacy c rest = reading := by
  cases h with
  | @blanks c rest hc => exact ⟨c, rest, rfl, by simp [next, hc]⟩
  | @newline rest =>
    have hblank : Text.isBlank '\n' = false := rfl
    exact ⟨'\n', rest, rfl, by simp [next, hblank]⟩
  | @word c rest hc =>
    have hspace := Text.isSpace_eq_false_of_isLetter hc
    exact ⟨c, rest, rfl, by simp [next, Text.isBlank_eq_false hspace, Text.ne_newline hspace, hc]⟩
  | @numeral c rest hc =>
    refine ⟨c, rest, rfl, ?_⟩
    obtain ⟨hspace, hletter⟩ : Text.isSpace c = false ∧ Text.isLetter c = false := by
      obtain hc | ⟨rfl, -⟩ := hc
      · exact ⟨Text.isSpace_eq_false_of_isDecimal hc, Text.isLetter_eq_false_of_isDecimal hc⟩
      · decide +kernel
    simp [next, Text.isBlank_eq_false hspace, Text.ne_newline hspace, hletter, hc]
  | @multilineString rest horder =>
    refine ⟨quote, quote :: quote :: rest, rfl, ?_⟩
    have htriple : atTripleQuote (quote :: quote :: quote :: rest) = true := by
      simp [atTripleQuote, tripleQuote, List.isPrefixOf]
    rw [next_of_mem_marks (by decide), htriple, horder, if_pos (by decide)]
    rfl
  | @string rest hquotes =>
    refine ⟨quote, rest, rfl, ?_⟩
    have hpass : (!legacy && atTripleQuote (quote :: rest)) = false := by
      obtain rfl | hquotes := hquotes
      · rfl
      · rw [atTripleQuote, ← Bool.not_eq_true, Bool.and_eq_true, List.isPrefixOf_iff_prefix]
        exact fun h => hquotes h.2
    rw [next_of_mem_marks (by decide), hpass]
    rfl
  | @character rest =>
    refine ⟨apostrophe, rest, rfl, ?_⟩
    rw [next_of_mem_marks (by decide), atTripleQuote_eq_false (by decide), Bool.and_false]
    rfl
  | @lineComment rest =>
    refine ⟨'/', '/' :: rest, rfl, ?_⟩
    rw [next_slash legacy (.inl rfl), comment, if_pos (by simp)]
  | @documentation rest hrest =>
    refine ⟨'/', '*' :: '*' :: rest, rfl, ?_⟩
    rw [List.head?_eq_getElem?] at hrest
    rw [next_slash legacy (.inr rfl), comment, if_neg (by simp), if_pos (by simpa using hrest)]
  | @blockComment rest hrest =>
    refine ⟨'/', '*' :: rest, rfl, ?_⟩
    rw [List.head?_eq_getElem?] at hrest
    rw [next_slash legacy (.inr rfl), comment, if_neg (by simp), if_neg (by simpa using hrest)]
  | @separator c rest hc =>
    refine ⟨c, rest, rfl, ?_⟩
    rw [next_of_mem_tables (List.mem_append_left _ hc), if_pos hc]
  | @special c rest hc =>
    have hapart : Token.specials.all (· ∉ Token.separators) := by decide
    have hseparator : c ∉ Token.separators := by simpa using List.all_eq_true.mp hapart c hc
    refine ⟨c, rest, rfl, ?_⟩
    rw [next_of_mem_tables (List.mem_append_right _ hc), if_neg hseparator, if_pos hc]
  | @operator c rest hblank hnewline hletter hnumeral hquote hapostrophe hcomment hseparator
      hspecial =>
    refine ⟨c, rest, rfl, ?_⟩
    unfold next
    rw [if_neg hblank, if_neg hnewline, if_neg hletter, if_neg (by simpa using hnumeral),
      atTripleQuote_eq_false hquote, Bool.and_false, if_neg Bool.false_ne_true, if_neg hquote,
      if_neg hapostrophe, if_neg hcomment, if_neg hseparator, if_neg hspecial]

/-! ### White space ends a reading -/

section

variable {stop : Char} (hstop : Text.isSpace stop = true)

include hstop

theorem not_mem_marks : stop ∉ marks := by
  intro hmark
  have hspace := (of_mem_marks hmark).1
  rw [hstop] at hspace
  cases hspace

theorem isWordChar_eq_false : isWordChar stop = false := by
  rw [← Bool.not_eq_true, isWordChar, Bool.or_eq_true]
  rintro (hletter | hdecimal)
  · rw [Text.isSpace_eq_false_of_isLetter hletter] at hstop
    cases hstop
  · rw [Text.isSpace_eq_false_of_isDecimal hdecimal] at hstop
    cases hstop

theorem isDecimal_eq_false : Text.isDecimal stop = false :=
  (Bool.or_eq_false_iff.mp (isWordChar_eq_false hstop)).2

theorem isNumeralChar_eq_false : isNumeralChar stop = false := by
  have hdot : stop ≠ '.' := by
    rintro rfl
    cases hstop
  simp [isNumeralChar, isDecimal_eq_false hstop, hdot]

theorem word_append (text more : Text) : word (text ++ stop :: more) = word text := by
  rw [word, word, Text.takeWhile_append_cons (isWordChar_eq_false hstop)]

theorem numeral_append (text more : Text) : numeral (text ++ stop :: more) = numeral text := by
  rw [numeral, numeral, Text.takeWhile_append_cons (isNumeralChar_eq_false hstop)]

/-- White space is no second character of an operator. -/
theorem operator_append (c : Char) (rest more : Text) :
    operator (c :: rest ++ stop :: more) = operator (c :: rest) := by
  cases rest with
  | nil =>
    have hmarks : ∀ value ∈ Token.operators, value ⊆ marks := by decide
    have hmem : [c, stop] ∉ Token.operators := fun hmem =>
      not_mem_marks hstop (hmarks _ hmem (by simp))
    exact if_neg hmem
  | cons d rest => rfl

theorem head?_append_eq_some_iff {c : Char} (hc : c ∈ marks) (rest more : Text) :
    (rest ++ stop :: more).head? = some c ↔ rest.head? = some c := by
  cases rest with
  | nil =>
    have hne : stop ≠ c := fun h => not_mem_marks hstop (h ▸ hc)
    simpa using hne
  | cons d rest => rfl

theorem head?_append_any_isDecimal (rest more : Text) :
    (rest ++ stop :: more).head?.any Text.isDecimal = rest.head?.any Text.isDecimal := by
  cases rest with
  | nil => simp [isDecimal_eq_false hstop]
  | cons d rest => rfl

end

section

variable {text : Text}

theorem string_append (hlength : 1 ≤ text.length) (h : (string text).flaw ≠ some .unterminated)
    (more : Text) : string (text ++ more) = string text := by
  rw [string, string, Body.read_drop_append hlength h]

theorem multilineString_append (hlength : 3 ≤ text.length)
    (h : (multilineString text).flaw ≠ some .unterminated) (more : Text) :
    multilineString (text ++ more) = multilineString text := by
  rw [multilineString, multilineString, Body.read_drop_append hlength h]

theorem documentation_append (hlength : 3 ≤ text.length)
    (h : (documentation text).flaw ≠ some .unterminated) (more : Text) :
    documentation (text ++ more) = documentation text := by
  rw [documentation, documentation, Body.read_drop_append hlength h]

theorem blockComment_append (hlength : 2 ≤ text.length)
    (h : (blockComment text).flaw ≠ some .unterminated) (more : Text) :
    blockComment (text ++ more) = blockComment text := by
  rw [blockComment, blockComment, Body.read_drop_append hlength h]

end

theorem character_append {rest : Text}
    (h : (character (apostrophe :: rest)).flaw ≠ some .unterminated) (more : Text) :
    character (apostrophe :: rest ++ more) = character (apostrophe :: rest) := by
  cases rest with
  | nil => exact absurd rfl h
  | cons c rest =>
    by_cases hc : c = apostrophe
    · subst hc
      rfl
    rw [character_cons hc] at h
    cases rest with
    | nil => exact absurd rfl h
    | cons d rest =>
      rw [character_cons hc]
      exact character_cons hc _

/-- A reading that gives a token is neither of blanks nor of a line comment. -/
theorem form_ne_of_isSome_token? {reading : Reading} (h : reading.token?.isSome) :
    reading.form ≠ .blank ∧ reading.form ≠ .lineComment := by
  refine ⟨fun hform => ?_, fun hform => ?_⟩
  · rw [token?, hform] at h
    cases h
  · rw [token?, hform] at h
    cases h

/-- The rule that fits a text fits it also before white space, if the reading has its end. Blanks
and line comments have theirs only before a newline. -/
theorem Fits.append {legacy : Bool} {text : Text} {reading : Reading} (h : Fits legacy text reading)
    (hflaw : reading.flaw ≠ some .unterminated) {stop : Char} (hstop : Text.isSpace stop = true)
    (hnewline : stop = '\n' ∨ reading.form ≠ .blank ∧ reading.form ≠ .lineComment) (more : Text) :
    Fits legacy (text ++ stop :: more) reading := by
  cases h with
  | @blanks c rest hc =>
    obtain rfl | hform := hnewline
    · have happend : Reading.blanks (c :: rest ++ '\n' :: more) = Reading.blanks (c :: rest) := by
        rw [Reading.blanks, Reading.blanks, Text.takeWhile_append_cons rfl]
      rw [← happend]
      exact .blanks hc
    · exact absurd rfl hform.1
  | newline => exact .newline
  | @word c rest hc =>
    rw [← word_append hstop (c :: rest) more]
    exact .word hc
  | @numeral c rest hc =>
    rw [← head?_append_any_isDecimal hstop rest more] at hc
    rw [← numeral_append hstop (c :: rest) more]
    exact .numeral hc
  | multilineString horder =>
    rw [← multilineString_append (Nat.le_add_left 3 _) hflaw (stop :: more), List.append_assoc]
    exact .multilineString horder
  | @string rest hquotes =>
    have hmarks : tripleQuote ⊆ marks := by decide
    have hquote : stop ∉ tripleQuote := fun hmem => not_mem_marks hstop (hmarks hmem)
    rw [← string_append (Nat.le_add_left 1 _) hflaw (stop :: more)]
    refine .string (hquotes.imp_right fun hquotes htriple => hquotes ?_)
    exact (Text.prefix_append_cons_iff hquote (quote :: rest) more).mp htriple
  | @character rest =>
    rw [← character_append hflaw (stop :: more)]
    exact .character
  | @lineComment rest =>
    obtain rfl | hform := hnewline
    · have happend : Reading.lineComment ('/' :: '/' :: rest ++ '\n' :: more) =
          Reading.lineComment ('/' :: '/' :: rest) := by
        rw [Reading.lineComment, Reading.lineComment, Text.takeWhile_append_cons rfl]
      rw [← happend]
      exact .lineComment
    · exact absurd rfl hform.2
  | @documentation rest hrest =>
    rw [Ne, ← head?_append_eq_some_iff (c := '/') hstop (by decide) rest more] at hrest
    rw [← documentation_append (Nat.le_add_left 3 _) hflaw (stop :: more)]
    exact .documentation hrest
  | @blockComment rest hrest =>
    have hslash : (rest ++ stop :: more).head? = some '*' →
        (rest ++ stop :: more)[1]? = some '/' := by
      intro hstar
      have hslash := hrest ((head?_append_eq_some_iff hstop (by decide) rest more).mp hstar)
      obtain ⟨hlength, -⟩ := List.getElem?_eq_some_iff.mp hslash
      rwa [List.getElem?_append_left hlength]
    rw [← blockComment_append (Nat.le_add_left 2 _) hflaw (stop :: more)]
    exact .blockComment hslash
  | separator hc => exact .separator hc
  | special hc => exact .special hc
  | @operator c rest hblank hline hletter hnumeral hquote hapostrophe hcomment hseparator
      hspecial =>
    rw [← head?_append_any_isDecimal hstop rest more] at hnumeral
    rw [← head?_append_eq_some_iff (c := '/') hstop (by decide) rest more,
      ← head?_append_eq_some_iff (c := '*') hstop (by decide) rest more] at hcomment
    rw [← operator_append hstop c rest more]
    exact .operator hblank hline hletter hnumeral hquote hapostrophe hcomment hseparator hspecial

/-- A reading that has its end stays within the text. -/
theorem Fits.width_le {legacy : Bool} {text : Text} {reading : Reading}
    (h : Fits legacy text reading)
    (hflaw : reading.flaw ≠ some .unterminated) : reading.width ≤ text.length := by
  cases h with
  | blanks | word | numeral | lineComment => exact (List.takeWhile_prefix _).length_le
  | newline | separator | special => exact Nat.le_add_left 1 _
  | @multilineString rest =>
    have hlength := Body.length_read tripleQuote rest
    simp only [Reading.multilineString, tripleQuote, List.cons_append, List.nil_append,
      List.drop_succ_cons, List.drop_zero, List.length_cons] at hlength ⊢
    omega
  | @string rest =>
    have hclosed : (Body.read [quote] rest).closed = true := Body.closed_of_flaw hflaw
    have hlength := Body.length_read [quote] rest
    rw [Body.length_closing hclosed] at hlength
    simp only [Reading.string, List.drop_one, List.tail_cons, List.length_cons,
      List.length_nil] at hlength ⊢
    omega
  | @character rest =>
    cases rest with
    | nil => exact absurd rfl hflaw
    | cons c rest =>
      by_cases hc : c = apostrophe
      · subst hc
        exact Nat.le_add_left 2 _
      rw [character_cons hc] at hflaw ⊢
      cases rest with
      | nil => exact absurd rfl hflaw
      | cons d rest => exact Nat.le_add_left 3 _
  | @documentation rest =>
    have hlength := Body.length_read commentEnd rest
    simp only [Reading.documentation, List.drop_succ_cons, List.drop_zero, List.length_append,
      List.length_cons, List.length_nil] at hlength ⊢
    omega
  | @blockComment rest =>
    have hlength := Body.length_read commentEnd rest
    simp only [Reading.blockComment, List.drop_succ_cons, List.drop_zero,
      List.length_cons] at hlength ⊢
    omega
  | @operator c rest =>
    obtain hsingle | ⟨d, tail, rfl, hpair⟩ := operator_cons c rest
    · rw [hsingle]
      exact Nat.le_add_left 1 _
    · rw [hpair]
      exact Nat.le_add_left 2 _

end Reading

/-- The first segment of a text is the one that the rule takes that fits. -/
theorem Segment.scan_of_fits {legacy : Bool} {text : Text} {reading : Reading}
    (h : Reading.Fits legacy text reading) :
    scan legacy text =
      ⟨text.take reading.width, reading⟩ :: scan legacy (text.drop reading.width) := by
  obtain ⟨c, rest, rfl, rfl⟩ := h.eq_next
  exact scan_cons legacy c rest

/-- A first segment that has its end, before white space. -/
theorem Segment.scan_append_of_fits {legacy : Bool} {text : Text} {reading : Reading}
    (h : Reading.Fits legacy text reading) (hflaw : reading.flaw ≠ some .unterminated) {stop : Char}
    (hstop : Text.isSpace stop = true)
    (hnewline : stop = '\n' ∨ reading.form ≠ .blank ∧ reading.form ≠ .lineComment) (more : Text) :
    scan legacy (text ++ stop :: more) =
      ⟨text.take reading.width, reading⟩ ::
        scan legacy (text.drop reading.width ++ stop :: more) := by
  have hwidth := h.width_le hflaw
  rw [scan_of_fits (h.append hflaw hstop hnewline more), List.take_append_of_le_length hwidth,
    List.drop_append_of_le_length hwidth]

end Lexical
