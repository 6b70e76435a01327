import Lexical.Reading.Dispatch
import Lexical.Session.Rules

/-! The scan of a session: rounds of the first rule that fits, from the start of the source to its
end. `round_eq` says what a round comes to, and with `Reading.width_next` that each round shortens
the text that is left. -/

namespace Lexical.Session

open Reading (quote apostrophe)

/-- A round at the character at the cursor. -/
def round (session : Session) (c : Char) : Result Unit :=
  let start : Int := session.position
  if Text.isBlank c then (.ok (), session.skipBlanks)
  else if c = '\n' then session.emitSingle (some .newline) start
  else if Text.isLetter c then
    let (word, stopped) := session.collectWord
    stopped.emit (some (.ofWord word)) start
  else if Text.isDecimal c || (c == '.' && (session.peek 1).any Text.isDecimal) then
    let (numeral, stopped) := session.collectNumeral
    stopped.emit (some (.ofNumeral numeral)) start
  else if !session.options.legacy && session.atTripleQuote then
    let (body, stopped) := session.collectMultilineString start
    stopped.emit (some ⟨.multilineString, body⟩) start
  else if c = quote then
    let (body, stopped) := session.collectString start
    stopped.emit (some ⟨.string, body⟩) start
  else if c = apostrophe then
    let (value, stopped) := session.collectCharacter start
    stopped.emit (some ⟨.character, value⟩) start
  else if c = '/' ∧ (session.peek 1 = some '/' ∨ session.peek 1 = some '*') then
    session.skipComment start
  else if c ∈ Token.separators then session.emitSingle (some ⟨.separator, [c]⟩) start
  else if c ∈ Token.specials then session.emitSingle (some ⟨.special, [c]⟩) start
  else session.scanOperator start

theorem fault?_eq_none {token : Token} (h : token.kind ≠ .unknown) :
    fault? (some token) = none := by
  obtain ⟨kind, value⟩ := token
  cases kind <;> first | rfl | exact absurd rfl h

theorem round_eq {session : Session} {c : Char} (h : session.current = some c) :
    session.round c =
      (.ok (), session.take session.position
        (Reading.next session.options.legacy c session.rest.tail)) := by
  have hnext : session.peek 1 = session.rest.tail.head? := by simp [peek]
  have hquotes : session.atTripleQuote = Reading.atTripleQuote session.rest := rfl
  have hword (word : Text) : fault? (some (.ofWord word)) = none :=
    fault?_eq_none (by simp only [Token.ofWord]; split <;> decide)
  have hnumeral (numeral : Text) : fault? (some (.ofNumeral numeral)) = none :=
    fault?_eq_none (by simp only [Token.ofNumeral]; split <;> decide)
  rw [round, Reading.next, ← rest_eq_cons h, hnext, hquotes]
  dsimp only
  by_cases hblank : Text.isBlank c
  · rw [if_pos hblank, if_pos hblank, skipBlanks, collectWhile_eq, take_eq_pass rfl]
    rfl
  rw [if_neg hblank, if_neg hblank]
  by_cases hnewline : c = '\n'
  · rw [if_pos hnewline, if_pos hnewline]
    exact emitSingle_eq (fault?_eq_none (by decide)) session _ 0
  rw [if_neg hnewline, if_neg hnewline]
  by_cases hletter : Text.isLetter c
  · rw [if_pos hletter, if_pos hletter, collectWord, collectWhile_eq]
    exact emit_pass (Reading.word session.rest) rfl (hword _) session _
  rw [if_neg hletter, if_neg hletter]
  by_cases hnumber : (Text.isDecimal c || c == '.' && session.rest.tail.head?.any Text.isDecimal)
  · rw [if_pos hnumber, if_pos hnumber, collectNumeral, collectWhile_eq]
    exact emit_pass (Reading.numeral session.rest) rfl (hnumeral _) session _
  rw [if_neg hnumber, if_neg hnumber]
  by_cases htriple : (!session.options.legacy && Reading.atTripleQuote session.rest)
  · rw [if_pos htriple, if_pos htriple, collectMultilineString_eq]
    exact emit_pass _ rfl (fault?_eq_none (by simp)) session _
  rw [if_neg htriple, if_neg htriple]
  by_cases hquote : c = quote
  · rw [if_pos hquote, if_pos hquote, collectString_eq]
    exact emit_pass _ rfl (fault?_eq_none (by simp)) session _
  rw [if_neg hquote, if_neg hquote]
  by_cases hapostrophe : c = apostrophe
  · rw [if_pos hapostrophe, if_pos hapostrophe, collectCharacter_eq]
    exact emit_pass _ (Reading.token?_character _) (fault?_eq_none (by simp)) session _
  rw [if_neg hapostrophe, if_neg hapostrophe]
  by_cases hcomment : c = '/' ∧
      (session.rest.tail.head? = some '/' ∨ session.rest.tail.head? = some '*')
  · rw [if_pos hcomment, if_pos hcomment, skipComment_eq]
  rw [if_neg hcomment, if_neg hcomment]
  by_cases hseparator : c ∈ Token.separators
  · rw [if_pos hseparator, if_pos hseparator]
    exact emitSingle_eq (fault?_eq_none (by simp)) session _ 0
  rw [if_neg hseparator, if_neg hseparator]
  by_cases hspecial : c ∈ Token.specials
  · rw [if_pos hspecial, if_pos hspecial]
    exact emitSingle_eq (fault?_eq_none (by simp)) session _ 0
  rw [if_neg hspecial, if_neg hspecial, scanOperator_eq h]

theorem length_rest_round {session next : Session} {c : Char} (h : session.current = some c)
    (hround : session.round c = (.ok (), next)) : next.rest.length < session.rest.length := by
  rw [round_eq h] at hround
  obtain ⟨-, rfl⟩ := Prod.mk.inj hround
  have hwidth := Reading.width_next session.options.legacy c session.rest.tail
  have hlength := congrArg List.length (rest_eq_cons h)
  simp only [take, advance, List.length_drop, List.length_cons] at hlength ⊢
  omega

/-- Rounds until the cursor has passed the end. -/
def scan (session : Session) : Result Unit :=
  match _ : session.current with
  | none => (.ok (), session)
  | some c =>
    match _ : session.round c with
    | (.ok (), next) => next.scan
    | (.error fault, stopped) => (.error fault, stopped)
termination_by session.rest.length
decreasing_by exact length_rest_round ‹_› ‹_›

/-- The session as it was before anything was done, but with the options that it has now. -/
def restart (session : Session) : Session :=
  { session with
    position := 0
    rest := session.text
    tokens := []
    log := session.log.map fun log => { collector := log.collector.clear } }

/-- Scans the whole source anew. The end token stands at the end of the source, even if the cursor
has passed it. -/
def tokenize (session : Session) : Result (List Token) :=
  session.restart.scan.andThen fun scanned =>
    let ending : Int := min scanned.position scanned.text.length
    (scanned.emit (some .eof) ending).andThen fun ended => (.ok ended.tokens.reduceOption, ended)

end Lexical.Session
