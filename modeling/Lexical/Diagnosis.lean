import Lexical.Diagnostic.Step
import Lexical.Segment
import Lexical.Session.Scan

/-! Diagnosis: the tokens of a source with their offsets, and everything that is wrong with it. What
it is, is said of the segments of the source (`diagnose`); it is made in an examination, which scans
the source in a session of its own (`examine`). -/

namespace Lexical

namespace Segment

/-- The tokens of located segments, each with the offset where its lexeme starts. -/
def tokensAt (located : List (Nat × Segment)) : List (Nat × Token) :=
  located.filterMap fun (start, segment) => segment.token?.map (start, ·)

@[simp] theorem tokensAt_cons (start : Nat) (segment : Segment) (located : List (Nat × Segment)) :
    tokensAt ((start, segment) :: located) =
      (segment.token?.map (start, ·)).toList ++ tokensAt located := by
  cases h : segment.token? <;> simp [tokensAt, h]

/-- Notes the anomalies of located segments in order. -/
def noteAll (source : Source) (collector : Collector) (located : List (Nat × Segment)) :
    Collector :=
  located.foldl
    (fun collector (start, segment) =>
      segment.reading.anomalies.foldl (Collector.note source start) collector)
    collector

theorem noteAll_cons (source : Source) (collector : Collector) (start : Nat) (segment : Segment)
    (located : List (Nat × Segment)) :
    noteAll source collector ((start, segment) :: located) =
      noteAll source (segment.reading.anomalies.foldl (Collector.note source start) collector)
        located := rfl

end Segment

/-- What a diagnostic scan gives. -/
structure Diagnosis where
  tokens : List Token
  /-- Where the lexeme of each token starts. -/
  offsets : List Int
  collector : Collector
  locations : List Location
  deriving DecidableEq, Repr

namespace Diagnosis

/-- There are no errors, whatever there is to warn of. -/
def isOk (diagnosis : Diagnosis) : Bool := !diagnosis.collector.hasErrors

/-- A diagnosis with the locations of its offsets. -/
def ofOffsets (source : Source) (tokens : List Token) (offsets : List Int)
    (collector : Collector) : Diagnosis :=
  ⟨tokens, offsets, collector, offsets.map source.location⟩

/-- The diagnosis that the segments of a source give to a collector, which is emptied first and
keeps its limit. -/
def make (source : Source) (legacy : Bool) (collector : Collector) : Diagnosis :=
  let located := Segment.locate 0 (Segment.scan legacy source.text)
  let tokens := Segment.tokensAt located ++ [(source.text.length, Token.eof)]
  .ofOffsets source (tokens.map Prod.snd) (tokens.map fun (start, _) => (start : Int))
    (Segment.noteAll source collector.clear located)

end Diagnosis

/-- The diagnosis of a source by a new collector. -/
def diagnose (source : Source) (options : Options) : Diagnosis :=
  .make source options.legacy { limit := options.errorLimit }

/-! ### Examination -/

/-- The tokens of a text, as a plain session scans them. -/
def lex (text : Text) (options : Options) : Except Fault (List Token) :=
  (Session.plain text options).tokenize.1

/-- The diagnosis of a source, as a diagnostic session makes it. -/
def examine (source : Source) (options : Options) (strict : Bool) : Except Fault Diagnosis := do
  let (result, session) := (Session.diagnostic source options).tokenize
  let tokens ← result
  let log := session.log.getD { collector := { limit := options.errorLimit } }
  if strict then log.collector.failIfErrors
  return .ofOffsets source tokens log.offsets log.collector

end Lexical
