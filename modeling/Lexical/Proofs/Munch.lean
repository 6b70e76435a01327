import Lexical.Proofs.Choice
import Lexical.Proofs.Restart
import Lexical.Proofs.Segmentation

/-! Maximal munch. A run goes on as long as its class does, the longer of two operators wins, and
the rules for comments and numerals come before the one for operators; so the character after a
lexeme is none that its rule would have taken (`Fits.stopsAt`, `Fits.blank_stopsAt`). Segment by
segment, this holds of every scan (`Session.tokenize_maximal`). -/

namespace Lexical

/-- The character cannot be taken into the token that it follows. It is outside the class of a word
or a numeral; with an operator or unknown character it makes no longer operator, and neither opens a
comment nor starts a numeral. -/
def Token.StopsAt (token : Token) (next : Char) : Prop :=
  match token.kind with
  | .keyword | .identifier => ¬ Text.isLetter next ∧ ¬ Text.isDecimal next
  | .number | .float => ¬ Text.isDecimal next ∧ next ≠ '.'
  | .operator =>
    ∀ c, token.value = [c] → [c, next] ∉ Token.operators ∧ (c = '/' → next ≠ '/' ∧ next ≠ '*')
  | .unknown =>
    ∀ c, token.value = [c] → [c, next] ∉ Token.operators ∧ (c = '.' → ¬ Text.isDecimal next)
  | _ => True

namespace Reading

variable {legacy : Bool} {text : Text} {reading : Reading} {next : Char}

theorem stopsAt_word (h : (text.drop (word text).width).head? = some next) :
    (Token.ofWord (text.takeWhile isWordChar)).StopsAt next := by
  have hnext : isWordChar next = false := Text.eq_false_of_head?_drop_takeWhile h
  have hstop : ¬ Text.isLetter next ∧ ¬ Text.isDecimal next := by
    simpa [isWordChar] using hnext
  unfold Token.ofWord
  split
  · exact hstop
  · exact hstop

theorem stopsAt_numeral (h : (text.drop (numeral text).width).head? = some next) :
    (Token.ofNumeral (text.takeWhile isNumeralChar)).StopsAt next := by
  have hnext : isNumeralChar next = false := Text.eq_false_of_head?_drop_takeWhile h
  have hstop : ¬ Text.isDecimal next ∧ next ≠ '.' := by
    simpa [isNumeralChar] using hnext
  unfold Token.ofNumeral
  split
  · exact hstop
  · exact hstop

/-- An operator of one character, or an unknown character, where no longer operator stands. -/
theorem stopsAt_operator {c : Char} {rest : Text} {token : Token}
    (hnumeral : ¬ (Text.isDecimal c ∨ c = '.' ∧ rest.head?.any Text.isDecimal))
    (hcomment : ¬ (c = '/' ∧ (rest.head? = some '/' ∨ rest.head? = some '*')))
    (htoken : (operator (c :: rest)).token? = some token)
    (h : ((c :: rest).drop (operator (c :: rest)).width).head? = some next) :
    token.StopsAt next := by
  cases rest with
  | nil =>
    have hdrop : [c].drop (operator [c]).width = [] := List.drop_of_length_le (width_operator [c])
    rw [hdrop] at h
    cases h
  | cons d tail =>
    by_cases hpair : [c, d] ∈ Token.operators
    · have hoperator : operator (c :: d :: tail) = ofToken ⟨.operator, [c, d]⟩ := if_pos hpair
      rw [hoperator] at htoken
      cases htoken
      intro x hx
      cases hx
    · have hoperator : operator (c :: d :: tail) = operator.single c := if_neg hpair
      rw [hoperator] at htoken h
      cases h
      by_cases hop : [c] ∈ Token.operators
      · rw [operator.single, if_pos hop] at htoken
        cases htoken
        intro x hx
        cases hx
        refine ⟨hpair, fun hslash => ⟨?_, ?_⟩⟩
        · rintro rfl
          exact hcomment ⟨hslash, .inl rfl⟩
        · rintro rfl
          exact hcomment ⟨hslash, .inr rfl⟩
      · rw [operator.single, if_neg hop] at htoken
        cases htoken
        intro x hx
        cases hx
        exact ⟨hpair, fun hdot hdecimal => hnumeral (.inr ⟨hdot, hdecimal⟩)⟩

/-- What follows the lexeme of a rule that fits is nothing that the rule would have taken. -/
theorem Fits.stopsAt {token : Token} (h : Fits legacy text reading)
    (htoken : reading.token? = some token)
    (hnext : (text.drop reading.width).head? = some next) : token.StopsAt next := by
  cases h with
  | blanks | lineComment | blockComment => cases htoken
  | word =>
    cases htoken
    exact stopsAt_word hnext
  | numeral =>
    cases htoken
    exact stopsAt_numeral hnext
  | operator _ _ _ hnumeral _ _ hcomment =>
    exact stopsAt_operator hnumeral hcomment htoken hnext
  | @character rest =>
    rw [token?_character] at htoken
    cases htoken
    trivial
  | newline | multilineString | string | documentation | separator | special =>
    cases htoken
    trivial

/-- No other rule is chosen at a blank. -/
theorem Fits.eq_blanks (h : Fits legacy text reading) (hform : reading.form = .blank) :
    reading = Reading.blanks text := by
  have hspells : ∀ c ∈ text.take reading.width, Text.isBlank c := by
    have hspells := h.spellsAt
    rw [SpellsAt, Spells, hform] at hspells
    exact hspells
  have hwidth := h.width_pos
  obtain ⟨c, rest, rfl, hreading⟩ := h.eq_next
  have hmem : c ∈ (c :: rest).take reading.width := by
    rw [List.take_cons hwidth]
    exact List.mem_cons_self
  rw [← hreading, Reading.next, if_pos (hspells c hmem)]

theorem Fits.blank_stopsAt (h : Fits legacy text reading) (hform : reading.form = .blank)
    (hnext : (text.drop reading.width).head? = some next) : next = '\n' ∨ ¬ Text.isSpace next := by
  rw [h.eq_blanks hform] at hnext
  have hblank : Text.isBlank next = false := Text.eq_false_of_head?_drop_takeWhile hnext
  simpa [Text.isBlank, Classical.or_iff_not_imp_left] using hblank

end Reading

/-- A located segment is what the rule takes that fits where it starts, and the text goes on after
its lexeme. -/
theorem Segment.fits_of_mem_locate {legacy : Bool} {text : Text} {entry : Nat × Segment}
    (h : entry ∈ locate 0 (scan legacy text)) :
    Reading.Fits legacy (text.drop entry.1) entry.2.reading ∧
      entry.2.lexeme = (text.drop entry.1).take entry.2.reading.width ∧
      text.drop (entry.1 + entry.2.lexeme.length) =
        (text.drop entry.1).drop entry.2.reading.width := by
  obtain ⟨n, following, hstart, hscan⟩ := exists_scan_drop_of_mem h
  rw [Nat.zero_add] at hstart
  rw [hstart]
  obtain ⟨hfits, hlexeme, -⟩ := of_scan_eq_cons hscan
  refine ⟨hfits, hlexeme, ?_⟩
  rw [hlexeme, ← List.drop_drop]
  exact Text.drop_length_take_add entry.2.reading.width 0 (text.drop n)

/-- A scan takes as much as it can, whatever was done with the session before. Its rounds start at
the segments of the source, which give the tokens; each lexeme stands in the source where its
segment starts, and the character after it, if there is one, does not go on with the token of the
segment or with the blanks that it skips. -/
theorem Session.tokenize_maximal (session : Session) :
    let segments := Segment.scan session.options.legacy session.text
    session.restart.rounds.map position = (Segment.locate 0 segments).map Prod.fst ∧
    session.tokenize.1 = .ok (segments.filterMap Segment.token? ++ [.eof]) ∧
    ∀ start segment, (start, segment) ∈ Segment.locate 0 segments →
      (session.text.drop start).take segment.lexeme.length = segment.lexeme ∧
      ∀ next, session.text[start + segment.lexeme.length]? = some next →
        (∀ token, segment.token? = some token → token.StopsAt next) ∧
        (segment.reading.form = .blank → next = '\n' ∨ ¬ Text.isSpace next) := by
  intro segments
  refine ⟨position_rounds session.restart, ?_, ?_⟩
  · rw [tokenize_eq]
    rfl
  · intro start segment hentry
    obtain ⟨hfits, hlexeme, hafter⟩ := Segment.fits_of_mem_locate hentry
    dsimp only at hfits hlexeme hafter
    refine ⟨?_, fun next hnext => ?_⟩
    · have hprefix : segment.lexeme <+: session.text.drop start := by
        rw [hlexeme]
        exact List.take_prefix _ _
      exact (List.prefix_iff_eq_take.mp hprefix).symm
    · rw [← List.head?_drop, hafter] at hnext
      exact ⟨fun token htoken => hfits.stopsAt htoken hnext,
        fun hform => hfits.blank_stopsAt hform hnext⟩

end Lexical
