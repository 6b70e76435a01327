import Lexical.Session.State

/-! The scanning rules of a session. Each moves the cursor over what it takes, one character after
the other, and sees no more of the text than the character at the cursor and the few after it. No
rule checks that the text suits it; `start` is the offset that a token or a flaw is put at. Beside
each rule stands what it comes to: the reading that the text at the cursor has under that rule. -/

namespace Lexical.Session

open Reading (quote apostrophe tripleQuote commentEnd isWordChar isNumeralChar)

/-- Takes characters of a class. -/
def collectWhile (p : Char → Bool) (session : Session) : Text × Session :=
  match _ : session.current with
  | none => ([], session)
  | some c =>
    if p c then
      let (run, stopped) := (session.advance 1).collectWhile p
      (c :: run, stopped)
    else ([], session)
termination_by session.rest.length
decreasing_by exact length_rest_advance ‹_›

theorem collectWhile_eq (p : Char → Bool) (session : Session) :
    session.collectWhile p =
      (session.rest.takeWhile p, session.advance (session.rest.takeWhile p).length) := by
  fun_induction collectWhile p session with
  | case1 session h => simp [rest_eq_nil h]
  | case2 session c h hp run stopped heq ih =>
    rw [heq] at ih
    obtain ⟨rfl, rfl⟩ := Prod.mk.inj ih
    rw [rest_eq_cons h]
    simp [hp, Nat.add_comm]
  | case3 session c h hp => rw [rest_eq_cons h]; simp [hp]

/-- The text at the cursor starts with a mark. -/
def isAt (session : Session) (mark : Text) : Bool := mark.isPrefixOf session.rest

/-- Takes characters up to a mark, and passes the mark; takes all if there is none. -/
def collectUntil (mark : Text) (session : Session) : Body × Session :=
  match _ : session.current with
  | none => (⟨[], false⟩, session)
  | some c =>
    if session.isAt mark then (⟨[], true⟩, session.advance mark.length)
    else
      let (body, stopped) := (session.advance 1).collectUntil mark
      ({ body with text := c :: body.text }, stopped)
termination_by session.rest.length
decreasing_by exact length_rest_advance ‹_›

theorem collectUntil_eq (mark : Text) (session : Session) :
    session.collectUntil mark =
      (Body.read mark session.rest,
       session.advance ((Body.read mark session.rest).text.length +
         ((Body.read mark session.rest).closing mark).length)) := by
  fun_induction collectUntil mark session with
  | case1 session h => simp [rest_eq_nil h, Body.closing]
  | case2 session c h hmark =>
    rw [isAt, rest_eq_cons h] at hmark
    rw [rest_eq_cons h, Body.read_cons, if_pos hmark]
    simp [Body.closing]
  | case3 session c h hmark body stopped heq ih =>
    rw [heq] at ih
    obtain ⟨rfl, rfl⟩ := Prod.mk.inj ih
    rw [isAt, rest_eq_cons h] at hmark
    rw [rest_eq_cons h, Body.read_cons, if_neg hmark]
    simp [Body.closing, Nat.add_assoc, Nat.add_left_comm]

/-- Passes white space up to the end of the line. -/
def skipBlanks (session : Session) : Session := (session.collectWhile Text.isBlank).2

/-- Takes a run of letters and digits. -/
def collectWord (session : Session) : Text × Session := session.collectWhile isWordChar

/-- Takes digits and dots as they come. -/
def collectNumeral (session : Session) : Text × Session := session.collectWhile isNumeralChar

/-- The closing quote is passed even if it is missing. -/
def collectString (session : Session) (start : Int) : Text × Session :=
  let (body, stopped) := (session.advance 1).collectWhile (· != quote)
  let flagged :=
    match stopped.current with
    | none => stopped.flag .string start .unterminated
    | some _ => stopped
  (body, flagged.advance 1)

theorem collectString_eq (session : Session) (start : Int) :
    session.collectString start =
      ((Reading.string session.rest).value, session.pass start (Reading.string session.rest)) := by
  have hcurrent : session.rest[1 + (session.rest.tail.takeWhile (· != quote)).length]? =
      if quote ∈ session.rest.tail then some quote else none := by
    rw [← List.head?_drop, ← List.drop_drop, List.drop_one, Text.drop_length_takeWhile,
      Text.head?_dropWhile_ne]
  have hwidth (n : Nat) : 1 + n + 1 = n + 2 := by omega
  simp only [Reading.string, Body.read_singleton, pass_body]
  simp only [collectString, collectWhile_eq, rest_advance, advance_advance, current_advance,
    List.drop_one, hcurrent]
  by_cases h : quote ∈ session.rest.tail <;> simp [h, hwidth, Form.kind]

/-- At most one character is taken, and whatever follows it is passed as the closing quote. -/
def collectCharacter (session : Session) (start : Int) : Text × Session :=
  let opened := session.advance 1
  let (value, taken) :=
    match opened.current with
    | none => ([], opened)
    | some c => if c = apostrophe then ([], opened) else ([c], opened.advance 1)
  let flagged :=
    match taken.current with
    | none => taken.flag .character start .unterminated
    | some d =>
      if d ≠ apostrophe then taken.flag .character start .tooLong
      else if value = [] then taken.flag .character start .empty
      else taken
  (value, flagged.advance 1)

theorem collectCharacter_eq (session : Session) (start : Int) :
    session.collectCharacter start =
      ((Reading.character session.rest).value,
       session.pass start (Reading.character session.rest)) := by
  simp only [collectCharacter, current_advance, advance_advance]
  cases hrest : session.rest with
  | nil => simp [Reading.character, hrest, pass, Form.kind]
  | cons a rest =>
    cases rest with
    | nil => simp [Reading.character, hrest, pass, Form.kind]
    | cons c rest =>
      by_cases hc : c = apostrophe
      · simp [Reading.character, hrest, pass, Form.kind, hc]
      · cases rest with
        | nil => simp [Reading.character, hrest, pass, Form.kind, hc]
        | cons d rest =>
          by_cases hd : d = apostrophe <;>
            simp [Reading.character, hrest, pass, Form.kind, hc, hd]

/-- Three quotes stand at the cursor. -/
def atTripleQuote (session : Session) : Bool := session.isAt tripleQuote

/-- Takes the text between two triple quotes, and flags it if the second is missing. -/
def collectMultilineString (session : Session) (start : Int) : Text × Session :=
  let (body, stopped) := (session.advance 3).collectUntil tripleQuote
  (body.text, if body.closed then stopped else stopped.flag .multilineString start .unterminated)

theorem collectMultilineString_eq (session : Session) (start : Int) :
    session.collectMultilineString start =
      ((Reading.multilineString session.rest).value,
       session.pass start (Reading.multilineString session.rest)) := by
  rw [collectMultilineString, collectUntil_eq, Reading.multilineString, pass_body]
  simp only [rest_advance, advance_advance, Form.kind, Nat.add_assoc]

/-- Passes what is left of the line. -/
def skipLineComment (session : Session) : Session := (session.collectWhile (· != '\n')).2

/-- From the second star on. The comment becomes a token, with its marks. -/
def collectDocumentation (session : Session) (start : Int) : Result Unit :=
  let (body, stopped) := (session.advance 1).collectUntil commentEnd
  let flagged := if body.closed then stopped else stopped.flag .documentation start .unterminated
  flagged.emit
    (some ⟨.documentation, ['/', '*', '*'] ++ body.text ++ body.closing commentEnd⟩) start

theorem collectDocumentation_eq (session : Session) (start : Int) :
    (session.advance 2).collectDocumentation start =
      (.ok (), session.take start (Reading.documentation session.rest)) := by
  have hwidth : (Reading.documentation session.rest).width =
      3 + ((Body.read commentEnd (session.rest.drop 3)).text.length +
        ((Body.read commentEnd (session.rest.drop 3)).closing commentEnd).length) := by
    simp [Reading.documentation]; omega
  rw [← emit_pass (Reading.documentation session.rest) rfl rfl, Reading.documentation, pass_body,
    collectDocumentation, collectUntil_eq]
  simp only [Reading.documentation] at hwidth
  simp only [advance_advance, rest_advance, hwidth, Form.kind]

/-- From the character after the first star on. -/
def skipBlockComment (session : Session) (start : Int) : Session :=
  let (body, stopped) := session.collectUntil commentEnd
  if body.closed then stopped else stopped.flag .comment start .unterminated

theorem skipBlockComment_eq (session : Session) (start : Int) :
    (session.advance 2).skipBlockComment start =
      session.take start (Reading.blockComment session.rest) := by
  rw [take_eq_pass rfl, Reading.blockComment, pass_body, skipBlockComment, collectUntil_eq]
  simp only [advance_advance, rest_advance, Form.kind, Nat.add_assoc]

/-- The second character tells a line comment, the two after it a documentation comment; the empty
comment is no documentation. -/
def skipComment (session : Session) (start : Int) : Result Unit :=
  if session.peek 1 = some '/' then (.ok (), session.skipLineComment)
  else
    let opened := session.advance 2
    if opened.current = some '*' ∧ opened.peek 1 ≠ some '/' then opened.collectDocumentation start
    else (.ok (), opened.skipBlockComment start)

theorem skipComment_eq (session : Session) (start : Int) :
    session.skipComment start = (.ok (), session.take start (Reading.comment session.rest)) := by
  rw [skipComment, Reading.comment]
  by_cases hline : session.rest[1]? = some '/'
  · rw [peek, if_pos hline, if_pos hline, take_eq_pass rfl, skipLineComment, collectWhile_eq]
    rfl
  · rw [peek, if_neg hline, if_neg hline]
    simp only [current_advance, peek_advance, Nat.reduceAdd, collectDocumentation_eq,
      skipBlockComment_eq]
    split <;> rfl

/-- Records a token of the character at the cursor, if there is one, and moves over it. -/
def emitSingle (session : Session) (token : Option Token) (start : Int) : Result Unit :=
  (session.emit token start).andThen fun emitted => (.ok (), emitted.advance 1)

/-- The longer operator wins; a character that starts none is unknown. -/
def scanOperator (session : Session) (start : Int) : Result Unit :=
  match session.current with
  | none => session.emitSingle none start
  | some c =>
    let single := session.emitSingle
      (some ⟨if [c] ∈ Token.operators then .operator else .unknown, [c]⟩) start
    match session.peek 1 with
    | none => single
    | some d =>
      if [c, d] ∈ Token.operators then
        (session.advance 1).emitSingle (some ⟨.operator, [c, d]⟩) start
      else single

theorem emitSingle_eq {token : Token} (hfault : fault? token = none) (session : Session)
    (start : Int) (n : Nat) :
    (session.advance n).emitSingle token start =
      (.ok (), session.take start ⟨.token token.kind, token.value, n + 1, none⟩) := by
  have hemit := emit_pass ⟨.token token.kind, token.value, n, none⟩ rfl hfault session start
  rw [pass] at hemit
  rw [emitSingle, hemit, Result.andThen_ok]
  simp [take, advance, Nat.add_assoc, Reading.token?, Reading.anomalies]

theorem scanOperator_eq {session : Session} {c : Char} (h : session.current = some c)
    (start : Int) :
    session.scanOperator start = (.ok (), session.take start (Reading.operator session.rest)) := by
  have hsingle :
      fault? (some ⟨if [c] ∈ Token.operators then .operator else .unknown, [c]⟩) = none := by
    split <;> rfl
  have hpair (d : Char) : fault? (some ⟨.operator, [c, d]⟩) = none := rfl
  have hnext : session.peek 1 = session.rest.tail.head? := by simp [peek]
  rw [scanOperator, h, rest_eq_cons h, Reading.operator, ← hnext]
  cases session.peek 1 with
  | none => exact emitSingle_eq hsingle session start 0
  | some d =>
    by_cases hmem : [c, d] ∈ Token.operators
    · simp only [hmem, if_true]
      exact emitSingle_eq (hpair d) session start 1
    · simp only [hmem, if_false]
      exact emitSingle_eq hsingle session start 0

end Lexical.Session
