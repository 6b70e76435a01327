import Lexical.Anomaly
import Lexical.Fault
import Lexical.Options

/-! The state of a session: a cursor in a source, the tokens recorded so far and, in a diagnostic
session, where they start and what is wrong. A scan changes it in three ways only: it moves the
cursor (`advance`), records a token (`emit`) and notes a flaw (`flag`). -/

namespace Lexical

/-- What a diagnostic session keeps beside the tokens. -/
structure Log where
  offsets : List Int := []
  collector : Collector
  deriving DecidableEq, Repr

/-- A scan and what it has come to so far. -/
structure Session where
  source : Source
  options : Options
  position : Nat := 0
  /-- The text from the cursor on. -/
  rest : Text
  /-- A recorded token without text, `none`, is the unknown token of a cursor past the end. -/
  tokens : List (Option Token) := []
  log : Option Log := none
  deriving DecidableEq, Repr

/-- What a step gives, and the session that it leaves behind, also when it fails. -/
abbrev Result (α : Type) := Except Fault α × Session

/-- Goes on after a step that did not fail. -/
def Result.andThen : Result Unit → (Session → Result α) → Result α
  | (.ok (), session), next => next session
  | (.error fault, session), _ => (.error fault, session)

@[simp] theorem Result.andThen_ok (session : Session) (next : Session → Result α) :
    Result.andThen (.ok (), session) next = next session := rfl

namespace Session

/-- A new session that keeps nothing but tokens. -/
def plain (text : Text) (options : Options) : Session :=
  { source := ⟨[], text⟩, options, rest := text }

/-- The collector takes its limit when the session starts. -/
def diagnostic (source : Source) (options : Options) : Session :=
  { source, options, rest := source.text,
    log := some { collector := { limit := options.errorLimit } } }

/-- The text that is scanned. -/
def text (session : Session) : Text := session.source.text

/-- The character at the cursor, if the cursor has not passed the end. -/
def current (session : Session) : Option Char := session.rest.head?

/-- The character at a distance from the cursor. -/
def peek (session : Session) (distance : Nat) : Option Char := session.rest[distance]?

/-- The cursor can pass the end. -/
def advance (session : Session) (n : Nat) : Session :=
  { session with position := session.position + n, rest := session.rest.drop n }

@[simp] theorem rest_advance (session : Session) (n : Nat) :
    (session.advance n).rest = session.rest.drop n := rfl

@[simp] theorem advance_zero (session : Session) : session.advance 0 = session := rfl

@[simp] theorem advance_advance (session : Session) (m n : Nat) :
    (session.advance m).advance n = session.advance (m + n) := by
  simp [advance, Nat.add_assoc]

@[simp] theorem current_advance (session : Session) (n : Nat) :
    (session.advance n).current = session.rest[n]? := by
  simp [current, advance]

@[simp] theorem peek_advance (session : Session) (n distance : Nat) :
    (session.advance n).peek distance = session.rest[n + distance]? := by
  simp [peek, advance]

theorem rest_eq_nil {session : Session} (h : session.current = none) : session.rest = [] :=
  List.head?_eq_none_iff.mp h

theorem rest_eq_cons {session : Session} {c : Char} (h : session.current = some c) :
    session.rest = c :: session.rest.tail := by
  obtain ⟨rest, hrest⟩ := List.head?_eq_some_iff.mp h
  simp [hrest]

theorem length_rest_advance {session : Session} {c : Char} (h : session.current = some c) :
    (session.advance 1).rest.length < session.rest.length := by
  rw [rest_eq_cons h]
  simp [advance]

/-- Changes the collector, if there is one. -/
def mapCollector (session : Session) (f : Collector → Collector) : Session :=
  { session with log := session.log.map fun log => { log with collector := f log.collector } }

/-- Notes an anomaly of the lexeme that starts at an offset. -/
def note (session : Session) (start : Int) (anomaly : Anomaly) : Session :=
  session.mapCollector (Collector.note session.source start · anomaly)

/-- Notes a flaw of the lexeme that starts at an offset. -/
def flag (session : Session) (kind : Kind) (start : Int) (flaw : Flaw) : Session :=
  session.note start (.ofFlaw kind flaw)

@[simp] theorem advance_flag (session : Session) (kind : Kind) (start : Int) (flaw : Flaw)
    (n : Nat) :
    (session.flag kind start flaw).advance n = (session.advance n).flag kind start flaw := rfl

/-- Records a token and, in a diagnostic session, where it starts. -/
def record (session : Session) (token : Option Token) (start : Int) : Session :=
  { session with
    tokens := session.tokens ++ [token]
    log := session.log.map fun log => { log with offsets := log.offsets ++ [start] } }

/-- An unknown token that a diagnostic session cannot note. -/
def fault? : Option Token → Option Fault
  | none => some .noCharacter
  | some ⟨.unknown, [_]⟩ => none
  | some ⟨.unknown, text⟩ => some (.notOneCharacter text.length)
  | some _ => none

/-- Records a token and notes its anomaly. -/
def emit (session : Session) (token : Option Token) (start : Int) : Result Unit :=
  let recorded := session.record token start
  match session.log.bind fun _ => fault? token with
  | some fault => (.error fault, recorded)
  | none =>
    match token.bind Anomaly.ofToken? with
    | some anomaly => (.ok (), recorded.note start anomaly)
    | none => (.ok (), recorded)

/-! What a reading of the text at the cursor makes of a session. -/

/-- Moves over a reading and notes its flaw. -/
def pass (session : Session) (start : Int) (reading : Reading) : Session :=
  let passed := session.advance reading.width
  match reading.flaw with
  | some flaw => passed.flag reading.form.kind start flaw
  | none => passed

/-- A body without its mark is unterminated. -/
theorem pass_body (session : Session) (start : Int) (form : Form) (value : Text) (width : Nat)
    (body : Body) :
    session.pass start ⟨form, value, width, body.flaw⟩ =
      if body.closed then session.advance width
      else (session.advance width).flag form.kind start .unterminated := by
  cases hclosed : body.closed <;> simp [pass, Body.flaw, hclosed]

/-- Moves over a reading, records its token and notes its anomalies. -/
def take (session : Session) (start : Int) (reading : Reading) : Session :=
  { session.advance reading.width with
    tokens := session.tokens ++ reading.token?.toList.map some
    log := session.log.map fun log =>
      { offsets := log.offsets ++ reading.token?.toList.map fun _ => start
        collector := reading.anomalies.foldl (Collector.note session.source start) log.collector } }

theorem take_eq_pass {reading : Reading} (h : reading.token? = none) (session : Session)
    (start : Int) : session.take start reading = session.pass start reading := by
  cases hflaw : reading.flaw <;> cases hlog : session.log <;>
    simp [take, pass, flag, note, mapCollector, advance, Reading.anomalies, h, hflaw, hlog]

/-- A token that a diagnostic session can note is recorded without a fault. -/
theorem emit_pass (reading : Reading) {token : Token} (htoken : reading.token? = some token)
    (hfault : fault? token = none) (session : Session) (start : Int) :
    (session.pass start reading).emit token start = (.ok (), session.take start reading) := by
  have hnone : ((session.pass start reading).log.bind fun _ => fault? token) = none := by
    cases (session.pass start reading).log <;> simp [hfault]
  rw [emit, hnone]
  cases hflaw : reading.flaw <;> cases hlog : session.log <;>
    cases hanomaly : Anomaly.ofToken? token <;>
    simp [take, pass, flag, note, mapCollector, record, advance, Reading.anomalies, htoken, hflaw,
      hlog, hanomaly]

end Session
end Lexical
