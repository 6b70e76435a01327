import Lexical.Reading

/-! Which rule reads what. `Fits` says for each rule, and for each form of comment, at which texts
it is the one that is chosen; `fits_next` is the inversion of the choice, and every proof by cases
on the rules goes through it. The first says that the chosen rule always moves the cursor
(`width_next`). -/

namespace Lexical

namespace Reading

/-- The rule that reads a text, with what is known of the text where it is the one that is chosen.
-/
inductive Fits (legacy : Bool) : Text → Reading → Prop where
  | blanks {c : Char} {rest : Text} (hc : Text.isBlank c) :
      Fits legacy (c :: rest) (blanks (c :: rest))
  | newline {rest : Text} : Fits legacy ('\n' :: rest) newline
  | word {c : Char} {rest : Text} (hc : Text.isLetter c) :
      Fits legacy (c :: rest) (word (c :: rest))
  | numeral {c : Char} {rest : Text}
      (hc : Text.isDecimal c ∨ c = '.' ∧ rest.head?.any Text.isDecimal) :
      Fits legacy (c :: rest) (numeral (c :: rest))
  | multilineString {rest : Text} (horder : legacy = false) :
      Fits legacy (tripleQuote ++ rest) (multilineString (tripleQuote ++ rest))
  | string {rest : Text} (hquotes : legacy ∨ ¬ tripleQuote <+: quote :: rest) :
      Fits legacy (quote :: rest) (string (quote :: rest))
  | character {rest : Text} : Fits legacy (apostrophe :: rest) (character (apostrophe :: rest))
  | lineComment {rest : Text} : Fits legacy ('/' :: '/' :: rest) (lineComment ('/' :: '/' :: rest))
  | documentation {rest : Text} (hrest : rest.head? ≠ some '/') :
      Fits legacy ('/' :: '*' :: '*' :: rest) (documentation ('/' :: '*' :: '*' :: rest))
  | blockComment {rest : Text} (hrest : rest.head? = some '*' → rest[1]? = some '/') :
      Fits legacy ('/' :: '*' :: rest) (blockComment ('/' :: '*' :: rest))
  | separator {c : Char} {rest : Text} (hc : c ∈ Token.separators) :
      Fits legacy (c :: rest) (ofToken ⟨.separator, [c]⟩)
  | special {c : Char} {rest : Text} (hc : c ∈ Token.specials) :
      Fits legacy (c :: rest) (ofToken ⟨.special, [c]⟩)
  | operator {c : Char} {rest : Text} (hblank : ¬ Text.isBlank c) (hnewline : c ≠ '\n')
      (hletter : ¬ Text.isLetter c)
      (hnumeral : ¬ (Text.isDecimal c ∨ c = '.' ∧ rest.head?.any Text.isDecimal))
      (hquote : c ≠ quote) (hapostrophe : c ≠ apostrophe)
      (hcomment : ¬ (c = '/' ∧ (rest.head? = some '/' ∨ rest.head? = some '*')))
      (hseparator : c ∉ Token.separators) (hspecial : c ∉ Token.specials) :
      Fits legacy (c :: rest) (operator (c :: rest))

theorem fits_comment {legacy : Bool} {rest : Text}
    (h : rest.head? = some '/' ∨ rest.head? = some '*') :
    Fits legacy ('/' :: rest) (comment ('/' :: rest)) := by
  rw [comment]
  obtain h | h := h
  · obtain ⟨rest, rfl⟩ := List.head?_eq_some_iff.mp h
    rw [if_pos (by simp)]
    exact .lineComment
  obtain ⟨rest, rfl⟩ := List.head?_eq_some_iff.mp h
  rw [if_neg (by simp)]
  by_cases hdoc : rest.head? = some '*' ∧ rest[1]? ≠ some '/'
  · rw [if_pos (by simpa [List.head?_eq_getElem?] using hdoc)]
    obtain ⟨hstar, hslash⟩ := hdoc
    obtain ⟨rest, rfl⟩ := List.head?_eq_some_iff.mp hstar
    exact .documentation (by simpa [List.head?_eq_getElem?] using hslash)
  · rw [if_neg (by simpa [List.head?_eq_getElem?] using hdoc)]
    exact .blockComment fun hstar => by simpa [hstar] using hdoc

theorem fits_next (legacy : Bool) (c : Char) (rest : Text) :
    Fits legacy (c :: rest) (next legacy c rest) := by
  unfold next
  dsimp only
  split
  · next hblank => exact .blanks hblank
  split
  · next h => subst h; exact .newline
  split
  · next hletter => exact .word hletter
  split
  · next h => exact .numeral (by simpa using h)
  split
  · next h =>
    rw [Bool.and_eq_true, Bool.not_eq_true', atTripleQuote, List.isPrefixOf_iff_prefix] at h
    obtain ⟨horder, rest, hrest⟩ := h
    rw [← hrest]
    exact .multilineString horder
  split
  · next hquotes h =>
    subst h
    refine .string ?_
    simpa [atTripleQuote, List.isPrefixOf_iff_prefix, Classical.or_iff_not_imp_left] using hquotes
  split
  · next h => subst h; exact .character
  split
  · next h => obtain ⟨rfl, h⟩ := h; exact fits_comment h
  split
  · next hseparator => exact .separator hseparator
  split
  · next hspecial => exact .special hspecial
  · next hblank hnewline hletter hnumeral _ hquote hapostrophe hcomment hseparator hspecial =>
    exact .operator hblank hnewline hletter (by simpa using hnumeral) hquote hapostrophe hcomment
      hseparator hspecial

theorem Fits.width_pos {legacy : Bool} {text : Text} {reading : Reading}
    (h : Fits legacy text reading) : 0 < reading.width := by
  cases h with
  | blanks hc => simp [Reading.blanks, hc]
  | newline => decide
  | word hc => simp [Reading.word, ofToken, Token.ofWord, isWordChar, hc]
  | numeral hc =>
    obtain hc | ⟨rfl, -⟩ := hc
    · simp [Reading.numeral, ofToken, Token.ofNumeral, isNumeralChar, hc]
    · simp [Reading.numeral, ofToken, Token.ofNumeral, isNumeralChar]
  | multilineString => simp only [Reading.multilineString]; omega
  | string => simp [Reading.string]
  | character => exact width_character _
  | lineComment => simp [Reading.lineComment]
  | documentation => simp [Reading.documentation]
  | blockComment => simp only [Reading.blockComment]; omega
  | separator => exact Nat.one_pos
  | special => exact Nat.one_pos
  | operator => exact width_operator _

/-- The chosen rule always moves the cursor. -/
theorem width_next (legacy : Bool) (c : Char) (rest : Text) : 0 < (next legacy c rest).width :=
  (fits_next legacy c rest).width_pos

/-- Only the operator rule gives unknown tokens, and each holds the character that it stands for. -/
theorem value_eq_of_unknown {legacy : Bool} {text : Text} {reading : Reading}
    (h : Fits legacy text reading) (hform : reading.form = .token .unknown) :
    ∃ c, reading.value = [c] := by
  cases h with
  | word =>
    simp only [word, ofToken, Token.ofWord] at hform
    split at hform <;> cases hform
  | numeral =>
    simp only [numeral, ofToken, Token.ofNumeral] at hform
    split at hform <;> cases hform
  | @character rest =>
    unfold character at hform
    split at hform
    · cases hform
    · split at hform <;> cases hform
  | @operator c rest =>
    obtain hsingle | ⟨d, tail, -, hpair⟩ := operator_cons c rest
    · exact ⟨c, by rw [hsingle]; rfl⟩
    · rw [hpair] at hform
      cases hform
  | _ => cases hform

end Reading
end Lexical
