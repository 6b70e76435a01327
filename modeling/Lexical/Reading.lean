import Lexical.Text.Classes
import Lexical.Token

/-! Scanning rules. A rule looks at the text that starts at the cursor and gives a reading: what
stands there, the value it carries, how far the cursor moves and what is wrong with it. No rule
checks that the text suits it; `Reading.next` chooses the rule that does. -/

namespace Lexical

/-- What a stretch of source is. -/
inductive Form where
  | blank
  | lineComment
  | blockComment
  | token (kind : Kind)
  deriving DecidableEq, Repr

/-- What can be wrong with a lexeme by itself. Only a character literal is empty or too long. -/
inductive Flaw where
  | unterminated
  | empty
  | tooLong
  deriving DecidableEq, Repr

/-- What a rule makes of the text at the cursor. -/
structure Reading where
  form : Form
  value : Text
  /-- How far the cursor moves. A missing quote counts, so a reading can pass the end. -/
  width : Nat
  flaw : Option Flaw := none
  deriving DecidableEq, Repr

namespace Form

/-- Stretches that give no token go by the kinds set aside for them. -/
def kind : Form → Kind
  | blank => .whitespace
  | lineComment | blockComment => .comment
  | token kind => kind

end Form

/-- A text up to a closing mark, or up to the end if the mark is missing. -/
structure Body where
  text : Text
  closed : Bool
  deriving DecidableEq, Repr

namespace Body

/-- The body ends at the first mark. -/
def read (mark text : Text) : Body :=
  match Text.before? mark text with
  | some body => ⟨body, true⟩
  | none => ⟨text, false⟩

@[simp] theorem read_nil (mark : Text) : read mark [] = ⟨[], false⟩ := rfl

theorem read_cons (mark : Text) (c : Char) (cs : Text) :
    read mark (c :: cs) =
      if mark.isPrefixOf (c :: cs) then ⟨[], true⟩
      else { read mark cs with text := c :: (read mark cs).text } := by
  rw [read, read, Text.before?]
  by_cases h : mark.isPrefixOf (c :: cs)
  · simp [h]
  · cases hcs : Text.before? mark cs <;> simp [h]

/-- A mark of one character ends the run of the other characters. -/
theorem read_singleton (mark : Char) (text : Text) :
    read [mark] text = ⟨text.takeWhile (· != mark), mark ∈ text⟩ := by
  induction text with
  | nil => rfl
  | cons c cs ih =>
    rw [read_cons, ih]
    by_cases h : c = mark
    · simp [h, List.isPrefixOf]
    · simp [h, Ne.symm h, List.isPrefixOf]

/-- A body without its mark has a flaw. -/
def flaw (body : Body) : Option Flaw := if body.closed then none else some .unterminated

/-- What stands after the body: the mark or nothing. -/
def closing (mark : Text) (body : Body) : Text := if body.closed then mark else []

/-- Nothing is left of a text whose body is not closed. -/
theorem append_read (mark text : Text) :
    ∃ rest, text = (read mark text).text ++ (read mark text).closing mark ++ rest ∧
      ((read mark text).closed = false → rest = []) := by
  rw [read]
  split
  · rename_i body h
    obtain ⟨rest, rfl⟩ := Text.exists_append_of_before? h
    exact ⟨rest, by simp [closing], fun h => absurd h.symm Bool.false_ne_true⟩
  · exact ⟨[], by simp [closing], fun _ => rfl⟩

theorem not_infix_read {mark : Text} (hmark : mark ≠ []) (text : Text) :
    ¬ mark <:+: (read mark text).text := by
  rw [read]
  split
  · rename_i body h
    exact Text.not_infix_of_before? hmark h
  · rename_i h
    exact (Text.before?_eq_none_iff hmark).mp h

end Body

namespace Reading

/-- The quotation mark, which delimits strings. -/
def quote : Char := '\x22'

/-- The apostrophe, which delimits character literals. -/
def apostrophe : Char := '\x27'

/-- The mark at both ends of a multi-line string. -/
def tripleQuote : Text := [quote, quote, quote]

/-- The mark that ends block and documentation comments. -/
def commentEnd : Text := ['*', '/']

/-- The token of a reading; white space and most comments give none. -/
def token? (reading : Reading) : Option Token :=
  match reading.form with
  | .token kind => some ⟨kind, reading.value⟩
  | _ => none

/-- The reading of a token that is written as its value. -/
def ofToken (token : Token) : Reading := ⟨.token token.kind, token.value, token.value.length, none⟩

/-- Words go on with letters and digits. -/
def isWordChar (c : Char) : Bool := Text.isLetter c || Text.isDecimal c

/-- Numerals go on with digits and dots. -/
def isNumeralChar (c : Char) : Bool := Text.isDecimal c || c == '.'

/-- Takes white space up to the end of the line. -/
def blanks (text : Text) : Reading :=
  let run := text.takeWhile Text.isBlank
  ⟨.blank, run, run.length, none⟩

/-- A newline has a token of its own. -/
def newline : Reading := ⟨.token .newline, Token.newlineValue, 1, none⟩

/-- Takes letters and digits as they come. -/
def word (text : Text) : Reading := ofToken (.ofWord (text.takeWhile isWordChar))

/-- Takes digits and dots as they come: `1.2.3` and `7.` are read whole. -/
def numeral (text : Text) : Reading := ofToken (.ofNumeral (text.takeWhile isNumeralChar))

/-- Both quotes count in the width, also one that is missing. -/
def string (text : Text) : Reading :=
  let body := Body.read [quote] (text.drop 1)
  ⟨.token .string, body.text, body.text.length + 2, body.flaw⟩

/-- Both marks count in the width, but a closing mark that is missing does not. -/
def multilineString (text : Text) : Reading :=
  let body := Body.read tripleQuote (text.drop 3)
  ⟨.token .multilineString, body.text, 3 + body.text.length + (body.closing tripleQuote).length,
   body.flaw⟩

/-- At most one character is taken, and whatever follows it is passed over as the closing quote. -/
def character (text : Text) : Reading :=
  match text.drop 1 with
  | [] => ⟨.token .character, [], 2, some .unterminated⟩
  | c :: rest =>
    if c = apostrophe then ⟨.token .character, [], 2, some .empty⟩
    else ⟨.token .character, [c], 3,
      match rest.head? with
      | none => some .unterminated
      | some d => if d = apostrophe then none else some .tooLong⟩

theorem character_cons {c : Char} (hc : c ≠ apostrophe) (rest : Text) :
    character (apostrophe :: c :: rest) =
      ⟨.token .character, [c], 3,
        match rest.head? with
        | none => some .unterminated
        | some d => if d = apostrophe then none else some .tooLong⟩ := if_neg hc

theorem token?_character (text : Text) :
    (character text).token? = some ⟨.character, (character text).value⟩ := by
  unfold character
  split
  · rfl
  · split <;> rfl

/-- Goes up to the newline, which stays. -/
def lineComment (text : Text) : Reading :=
  let run := text.takeWhile (· != '\n')
  ⟨.lineComment, run, run.length, none⟩

/-- The three characters that open the comment belong to the value, the closing mark too. -/
def documentation (text : Text) : Reading :=
  let body := Body.read commentEnd (text.drop 3)
  let value := ['/', '*', '*'] ++ body.text ++ body.closing commentEnd
  ⟨.token .documentation, value, value.length, body.flaw⟩

/-- Goes up to the first closing mark after the two characters that open the comment. -/
def blockComment (text : Text) : Reading :=
  let body := Body.read commentEnd (text.drop 2)
  ⟨.blockComment, body.text, 2 + body.text.length + (body.closing commentEnd).length, body.flaw⟩

/-- The second character tells a line comment, the two after it a documentation comment; the empty
comment is no documentation. -/
def comment (text : Text) : Reading :=
  if text[1]? = some '/' then lineComment text
  else if text[2]? = some '*' ∧ text[3]? ≠ some '/' then documentation text
  else blockComment text

/-- The longer operator wins; a character that starts none is unknown. -/
def operator : Text → Reading
  | [] => ⟨.token .unknown, [], 1, none⟩
  | c :: rest =>
    match rest.head? with
    | some d => if [c, d] ∈ Token.operators then ofToken ⟨.operator, [c, d]⟩ else single c
    | none => single c
where
  single (c : Char) : Reading :=
    ofToken ⟨if [c] ∈ Token.operators then .operator else .unknown, [c]⟩

theorem operator_cons (c : Char) (rest : Text) :
    operator (c :: rest) = operator.single c ∨
      ∃ d tail, rest = d :: tail ∧ operator (c :: rest) = ofToken ⟨.operator, [c, d]⟩ := by
  cases rest with
  | nil => exact .inl rfl
  | cons d tail =>
    by_cases hpair : [c, d] ∈ Token.operators
    · exact .inr ⟨d, tail, rfl, if_pos hpair⟩
    · exact .inl (if_neg hpair)

/-- The text starts with three quotes. -/
def atTripleQuote (text : Text) : Bool := tripleQuote.isPrefixOf text

/-- The reading at a character and the text after it: the first rule that fits. Under the legacy
order a triple quote is read as strings. -/
def next (legacy : Bool) (c : Char) (rest : Text) : Reading :=
  let text := c :: rest
  if Text.isBlank c then blanks text
  else if c = '\n' then newline
  else if Text.isLetter c then word text
  else if Text.isDecimal c || (c == '.' && rest.head?.any Text.isDecimal) then numeral text
  else if !legacy && atTripleQuote text then multilineString text
  else if c = quote then string text
  else if c = apostrophe then character text
  else if c = '/' ∧ (rest.head? = some '/' ∨ rest.head? = some '*') then comment text
  else if c ∈ Token.separators then ofToken ⟨.separator, [c]⟩
  else if c ∈ Token.specials then ofToken ⟨.special, [c]⟩
  else operator text

theorem width_operator (text : Text) : 0 < (operator text).width := by
  unfold operator operator.single
  split
  · decide
  · split
    · split <;> simp [ofToken]
    · simp [ofToken]

theorem width_character (text : Text) : 0 < (character text).width := by
  unfold character
  split
  · decide
  · split <;> simp

end Reading
end Lexical
