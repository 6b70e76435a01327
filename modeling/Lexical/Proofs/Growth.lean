import Lexical.Proofs.Scan

/-! Growth of a session. Whatever a rule does, at whichever place the cursor stands and whether the
text suits it or not, it moves the cursor, records tokens and notes anomalies, one after the other
(`Grows`). A scan does nothing else, once the session is as at its start (`grows_tokenize`). So what
those three changes keep is kept by every rule: the cursor stands where its position says and a log
has one offset for each token (`Tracked`), the position and the tokens only increase, and errors are
collected up to the limit (`Grows.withinLimit`). -/

namespace Lexical

theorem Result.keeps_andThen {α : Type} {P : Session → Prop} {done : Result Unit}
    {next : Session → Result α} (h : P done.2) (hnext : ∀ session, P session → P (next session).2) :
    P (done.andThen next).2 := by
  obtain ⟨_ | _, session⟩ := done
  · exact h
  · exact hnext session h

namespace Session

/-- What a session can become by moves of the cursor, recorded tokens and noted anomalies. -/
inductive Grows (session : Session) : Session → Prop where
  | refl : Grows session session
  | advance {later : Session} (h : Grows session later) (n : Nat) : Grows session (later.advance n)
  | record {later : Session} (h : Grows session later) (token : Option Token) (start : Int) :
      Grows session (later.record token start)
  | note {later : Session} (h : Grows session later) (start : Int) (anomaly : Anomaly) :
      Grows session (later.note start anomaly)

namespace Grows

variable {session later : Session}

theorem trans {last : Session} (h : Grows session later) (h' : Grows later last) :
    Grows session last := by
  induction h' with
  | refl => exact h
  | advance _ n ih => exact ih.advance n
  | record _ token start ih => exact ih.record token start
  | note _ start anomaly ih => exact ih.note start anomaly

theorem flag (h : Grows session later) (kind : Kind) (start : Int) (flaw : Flaw) :
    Grows session (later.flag kind start flaw) := h.note start (.ofFlaw kind flaw)

/-- Also if the token cannot be noted: it is recorded before that is known. -/
theorem emit (h : Grows session later) (token : Option Token) (start : Int) :
    Grows session (later.emit token start).2 := by
  unfold Session.emit
  dsimp only
  split
  · exact h.record token start
  · split
    · exact (h.record token start).note start _
    · exact h.record token start

theorem pass (h : Grows session later) (start : Int) (reading : Reading) :
    Grows session (later.pass start reading) := by
  unfold Session.pass
  dsimp only
  split
  · exact (h.advance _).flag _ start _
  · exact h.advance _

theorem notes (h : Grows session later) (start : Int) (anomalies : List Anomaly) :
    Grows session (anomalies.foldl (fun session anomaly => session.note start anomaly) later) := by
  induction anomalies generalizing later with
  | nil => exact h
  | cons anomaly anomalies ih => exact ih (h.note start anomaly)

end Grows

theorem foldl_note (session : Session) (start : Int) (anomalies : List Anomaly) :
    anomalies.foldl (fun session anomaly => session.note start anomaly) session =
      session.mapCollector fun collector =>
        anomalies.foldl (Collector.note session.source start) collector := by
  induction anomalies generalizing session with
  | nil => cases session with | mk _ _ _ _ _ log => cases log <;> rfl
  | cons anomaly anomalies ih =>
    rw [List.foldl_cons, ih]
    cases session with | mk _ _ _ _ _ log => cases log <;> rfl

/-- To take a reading is to move over it, record its token and note its anomalies. -/
theorem take_eq_foldl_note (session : Session) (start : Int) (reading : Reading) :
    session.take start reading =
      reading.anomalies.foldl (fun session anomaly => session.note start anomaly)
        (match reading.token? with
        | some token => (session.advance reading.width).record (some token) start
        | none => session.advance reading.width) := by
  rw [foldl_note]
  cases htoken : reading.token? <;> cases hlog : session.log <;>
    simp [take, mapCollector, record, advance, htoken, hlog]

theorem Grows.take {session later : Session} (h : Grows session later) (start : Int)
    (reading : Reading) : Grows session (later.take start reading) := by
  rw [take_eq_foldl_note]
  refine Grows.notes ?_ start _
  split
  · exact (h.advance _).record _ start
  · exact h.advance _

/-! ### Rules and scans -/

variable (session : Session)

theorem grows_emitSingle (token : Option Token) (start : Int) :
    Grows session (session.emitSingle token start).2 :=
  Result.keeps_andThen (Grows.refl.emit token start) fun _ h => h.advance 1

theorem grows_scanOperator (start : Int) : Grows session (session.scanOperator start).2 := by
  cases h : session.current with
  | none =>
    rw [scanOperator, h]
    exact grows_emitSingle session none start
  | some c =>
    rw [scanOperator_eq h]
    exact Grows.refl.take start _

theorem grows_scan : Grows session session.scan.2 := by
  fun_induction scan session with
  | case1 => exact .refl
  | case2 session c h next hround ih =>
    rw [round_eq h] at hround
    obtain ⟨-, rfl⟩ := Prod.mk.inj hround
    exact (Grows.refl.take _ _).trans ih
  | case3 session c h fault stopped hround =>
    rw [round_eq h] at hround
    cases hround

theorem grows_tokenize : Grows session.restart session.tokenize.2 := by
  refine Result.keeps_andThen (grows_scan session.restart) fun scanned h => ?_
  exact Result.keeps_andThen (h.emit (some .eof) _) fun _ h => h

/-- A rule that is applied by hand, at whichever place. -/
theorem grows_apply (start : Int) (rule : Rule) : Grows session (session.apply start rule).2 := by
  have hsilent {done : Result Unit} (h : Grows session done.2) :
      Grows session (apply.answerNothing done).2 := Result.keeps_andThen h fun _ h => h
  cases rule with
  | blanks =>
    simp only [apply, skipBlanks, collectWhile_eq]
    exact Grows.refl.advance _
  | word =>
    simp only [apply, apply.answerText, collectWord, collectWhile_eq]
    exact Grows.refl.advance _
  | numeral =>
    simp only [apply, apply.answerText, collectNumeral, collectWhile_eq]
    exact Grows.refl.advance _
  | string =>
    simp only [apply, apply.answerText, collectString_eq]
    exact Grows.refl.pass start _
  | character =>
    simp only [apply, apply.answerText, collectCharacter_eq]
    exact Grows.refl.pass start _
  | multilineString =>
    simp only [apply, apply.answerText, collectMultilineString_eq]
    exact Grows.refl.pass start _
  | comment =>
    refine hsilent ?_
    rw [skipComment_eq]
    exact Grows.refl.take start _
  | operator => exact hsilent (grows_scanOperator session start)

end Session

/-! ### What growth keeps -/

/-- No more errors than the limit allows. -/
def Collector.WithinLimit (collector : Collector) : Prop :=
  collector.errors.length ≤ max 0 collector.limit

theorem Collector.WithinLimit.note {collector : Collector} (h : collector.WithinLimit)
    (source : Source) (start : Int) (anomaly : Anomaly) :
    (collector.note source start anomaly).WithinLimit := by
  cases anomaly with
  | warning message => exact h
  | error cause =>
    rw [Collector.note, addWithin, isFull]
    split
    · exact h
    · next hroom =>
      rw [decide_eq_true_eq] at hroom
      rw [WithinLimit, add, List.length_append, List.length_singleton]
      dsimp only
      omega

theorem Collector.limit_note (collector : Collector) (source : Source) (start : Int)
    (anomaly : Anomaly) : (collector.note source start anomaly).limit = collector.limit := by
  cases anomaly with
  | warning message => rfl
  | error cause =>
    rw [Collector.note, addWithin]
    split <;> rfl

namespace Session

/-- The cursor stands where the position says, and a log has one offset for each token. -/
structure Tracked (session : Session) : Prop where
  rest_eq : session.rest = session.text.drop session.position
  length_offsets : ∀ log ∈ session.log, log.offsets.length = session.tokens.length

/-- If there is a log, its collector is within the limit. -/
def WithinLimit (session : Session) : Prop := ∀ log ∈ session.log, log.collector.WithinLimit

/-- The cursor does not go back, and tokens are recorded only after those that are there. -/
structure Continues (session later : Session) : Prop where
  position_le : session.position ≤ later.position
  tokens_prefix : session.tokens <+: later.tokens

/-- The same source, and a log with the same limit or none. -/
structure SameOrigin (session later : Session) : Prop where
  source_eq : later.source = session.source
  limit_eq : later.log.map (·.collector.limit) = session.log.map (·.collector.limit)

section

variable {session : Session}

theorem Tracked.advance (h : session.Tracked) (n : Nat) : (session.advance n).Tracked where
  rest_eq := by
    rw [rest_advance, h.rest_eq, List.drop_drop]
    rfl
  length_offsets := h.length_offsets

theorem Tracked.record (h : session.Tracked) (token : Option Token) (start : Int) :
    (session.record token start).Tracked where
  rest_eq := h.rest_eq
  length_offsets := by
    intro later hlater
    obtain ⟨log, hlog, rfl⟩ := Option.map_eq_some_iff.mp hlater
    simp [Session.record, h.length_offsets log hlog]

/-- The collector has no part in it. -/
theorem Tracked.mapCollector (h : session.Tracked) (f : Collector → Collector) :
    (session.mapCollector f).Tracked where
  rest_eq := h.rest_eq
  length_offsets := by
    intro later hlater
    obtain ⟨log, hlog, rfl⟩ := Option.map_eq_some_iff.mp hlater
    exact h.length_offsets log hlog

theorem WithinLimit.mapCollector (h : session.WithinLimit) {f : Collector → Collector}
    (hf : ∀ collector, collector.WithinLimit → (f collector).WithinLimit) :
    (session.mapCollector f).WithinLimit := by
  intro later hlater
  obtain ⟨log, hlog, rfl⟩ := Option.map_eq_some_iff.mp hlater
  exact hf _ (h log hlog)

theorem WithinLimit.record (h : session.WithinLimit) (token : Option Token) (start : Int) :
    (session.record token start).WithinLimit := by
  intro later hlater
  obtain ⟨log, hlog, rfl⟩ := Option.map_eq_some_iff.mp hlater
  exact h log hlog

theorem Continues.refl (session : Session) : Continues session session :=
  ⟨Nat.le_refl _, List.prefix_rfl⟩

theorem SameOrigin.refl (session : Session) : SameOrigin session session := ⟨rfl, rfl⟩

theorem SameOrigin.trans {later last : Session} (h : SameOrigin session later)
    (h' : SameOrigin later last) : SameOrigin session last :=
  ⟨h'.source_eq.trans h.source_eq, h'.limit_eq.trans h.limit_eq⟩

theorem SameOrigin.mapCollector {later : Session} (h : SameOrigin session later)
    {f : Collector → Collector} (hf : ∀ collector, (f collector).limit = collector.limit) :
    SameOrigin session (later.mapCollector f) where
  source_eq := h.source_eq
  limit_eq := by
    rw [← h.limit_eq, Session.mapCollector, Option.map_map]
    exact congrArg (later.log.map ·) (funext fun log => hf log.collector)

theorem SameOrigin.record {later : Session} (h : SameOrigin session later) (token : Option Token)
    (start : Int) : SameOrigin session (later.record token start) where
  source_eq := h.source_eq
  limit_eq := by
    rw [← h.limit_eq, Session.record, Option.map_map]
    rfl

end

namespace Grows

variable {session later : Session} (h : Grows session later)

include h

theorem tracked (hsession : session.Tracked) : later.Tracked := by
  induction h with
  | refl => exact hsession
  | advance _ n ih => exact ih.advance n
  | record _ token start ih => exact ih.record token start
  | note _ start anomaly ih => exact ih.mapCollector _

theorem withinLimit (hsession : session.WithinLimit) : later.WithinLimit := by
  induction h with
  | refl => exact hsession
  | advance _ n ih => exact ih
  | record _ token start ih => exact ih.record token start
  | note _ start anomaly ih => exact ih.mapCollector fun _ hwithin => hwithin.note _ start anomaly

theorem continues : Continues session later := by
  induction h with
  | refl => exact .refl session
  | advance _ n ih => exact ⟨Nat.le_trans ih.position_le (Nat.le_add_right _ n), ih.tokens_prefix⟩
  | record _ token start ih =>
    exact ⟨ih.position_le, ih.tokens_prefix.trans (List.prefix_append _ _)⟩
  | note _ start anomaly ih => exact ⟨ih.position_le, ih.tokens_prefix⟩

theorem sameOrigin : SameOrigin session later := by
  induction h with
  | refl => exact .refl session
  | advance _ n ih => exact ⟨ih.source_eq, ih.limit_eq⟩
  | record _ token start ih => exact ih.record token start
  | note _ start anomaly ih =>
    exact ih.mapCollector fun collector => collector.limit_note _ start anomaly

end Grows

/-! ### The start of a scan -/

theorem tracked_restart (session : Session) : session.restart.Tracked where
  rest_eq := rfl
  length_offsets := by
    intro later hlater
    obtain ⟨log, -, rfl⟩ := Option.map_eq_some_iff.mp hlater
    rfl

theorem withinLimit_restart (session : Session) : session.restart.WithinLimit := by
  intro later hlater
  obtain ⟨log, -, rfl⟩ := Option.map_eq_some_iff.mp hlater
  exact Int.le_max_left 0 _

theorem sameOrigin_restart (session : Session) : SameOrigin session session.restart where
  source_eq := rfl
  limit_eq := by
    rw [restart, Option.map_map]
    rfl

end Session
end Lexical
