import Lexical.Diagnostic.Step
import Lexical.Session.Scan

/-! Sessions driven by hand: the steps that can be asked for one at a time. A step that fails keeps
what it did before it failed. -/

namespace Lexical

/-- The scanning rules that can be applied by hand. -/
inductive Rule where
  | blanks
  | word
  | numeral
  | string
  | character
  | multilineString
  | comment
  | operator
  deriving DecidableEq, Repr

namespace Session

/-- Applies a rule at the cursor, for a lexeme that starts at an offset. The answer is the text that
was taken; blanks, comments and operators are passed over in silence. -/
def apply (session : Session) (start : Int) : Rule → Result Answer
  | .blanks => (.ok .nothing, session.skipBlanks)
  | .word => answerText session.collectWord
  | .numeral => answerText session.collectNumeral
  | .string => answerText (session.collectString start)
  | .character => answerText (session.collectCharacter start)
  | .multilineString => answerText (session.collectMultilineString start)
  | .comment => answerNothing (session.skipComment start)
  | .operator => answerNothing (session.scanOperator start)
where
  answerText (taken : Text × Session) : Result Answer := (.ok (.text taken.1), taken.2)
  answerNothing (done : Result Unit) : Result Answer :=
    done.andThen fun session => (.ok .nothing, session)

/-- What can be asked of a session. -/
inductive Step where
  | advance (n : Nat)
  | peek
  | peekNext
  | atTripleQuote
  | tokenize
  /-- Options that are not given stay. A collector does not see a new limit. -/
  | setOptions (legacy : Option Bool) (errorLimit : Option Int)
  | apply (rule : Rule) (start : Int)
  | emit (token : Token) (start : Int)
  | flag (kind : Kind) (start : Int) (flaw : Option Flaw)
  | location (offset : Int)
  | sourceLine (offset : Int)
  | collector (step : Collector.Step)
  deriving DecidableEq, Repr

/-- Does a step. In a plain session, what is asked of the log or the collector has no effect. -/
def run (session : Session) : Step → Except Fault Answer × Session
  | .advance n => (.ok .nothing, session.advance n)
  | .peek => (.ok (.character (session.peek 1)), session)
  | .peekNext => (.ok (.character (session.peek 2)), session)
  | .atTripleQuote => (.ok (.truth session.atTripleQuote), session)
  | .tokenize =>
    let (result, scanned) := session.tokenize
    (result.map .tokens, scanned)
  | .setOptions legacy errorLimit =>
    (.ok .nothing,
     { session with
       options :=
         { legacy := legacy.getD session.options.legacy
           errorLimit := errorLimit.getD session.options.errorLimit } })
  | .apply rule start => session.apply start rule
  | .emit token start => apply.answerNothing (session.emit (some token) start)
  | .flag kind start flaw =>
    (.ok .nothing, match flaw with
      | some flaw => session.flag kind start flaw
      | none => session)
  | .location offset => (.ok (.text (session.source.location offset).render), session)
  | .sourceLine offset => (.ok (.text (session.source.line offset)), session)
  | .collector step =>
    match session.log with
    | some log =>
      let (result, collector) := log.collector.run step
      (result, { session with log := some { log with collector } })
    | none => (.ok .nothing, session)

end Session
end Lexical
