import Lexical.Proofs.Growth

/-! Sessions after any number of steps. A step lets the session grow, scans it anew, sets its
options or works on its collector (`changes_run`); whatever the steps were and whether they failed
or not, the cursor and the lists of the session still fit together, and errors stay within the limit
as long as none is added by hand (`runAll_tracked`). No step changes the source or the limit of the
collector, and a scan starts from nothing else but the order of the rules that is set then, so it
does not depend on what was done before (`tokenize_runAll`). -/

namespace Lexical

namespace Collector

theorem WithinLimit.run {collector : Collector} (h : collector.WithinLimit) {step : Step}
    (hstep : ∀ error, step ≠ .add error) : (collector.run step).2.WithinLimit := by
  cases step with
  | add error => exact absurd rfl (hstep error)
  | clear => exact Int.le_max_left 0 _
  | warn | hasErrors | isFull | errorCount | warningCount | report | failIfErrors => exact h

theorem limit_run (collector : Collector) (step : Step) :
    (collector.run step).2.limit = collector.limit := by
  cases step <;> rfl

end Collector

namespace Session

/-- A new session, with or without a log. -/
def fresh (logs : Bool) (source : Source) (options : Options) : Session :=
  if logs then diagnostic source options else plain source.text options

/-- The session that steps leave behind. A step that fails keeps what it did before it failed. -/
def runAll (session : Session) (steps : List Step) : Session :=
  steps.foldl (fun session step => (session.run step).2) session

/-- All that a step can do to a session. -/
inductive Changes (session : Session) : Step → Session → Prop where
  | grow {step : Step} {later : Session} (hstep : step ≠ .tokenize) (h : Grows session later) :
      Changes session step later
  | scan {later : Session} (h : Grows session.restart later) : Changes session .tokenize later
  | setOptions (legacy : Option Bool) (errorLimit : Option Int) :
      Changes session (.setOptions legacy errorLimit)
        { session with
          options :=
            { legacy := legacy.getD session.options.legacy
              errorLimit := errorLimit.getD session.options.errorLimit } }
  | collector (step : Collector.Step) :
      Changes session (.collector step)
        (session.mapCollector fun collector => (collector.run step).2)

theorem changes_run (session : Session) (step : Step) :
    Changes session step (session.run step).2 := by
  cases step with
  | advance n => exact .grow Step.noConfusion (Grows.refl.advance n)
  | peek | peekNext | atTripleQuote | location | sourceLine =>
    exact .grow Step.noConfusion .refl
  | tokenize => exact .scan (grows_tokenize session)
  | setOptions legacy errorLimit => exact .setOptions legacy errorLimit
  | apply rule start => exact .grow Step.noConfusion (grows_apply session start rule)
  | emit token start =>
    exact .grow Step.noConfusion
      (Result.keeps_andThen (Grows.refl.emit (some token) start) fun _ h => h)
  | flag kind start flaw =>
    cases flaw with
    | none => exact .grow Step.noConfusion .refl
    | some flaw => exact .grow Step.noConfusion (Grows.refl.flag kind start flaw)
  | collector step =>
    have hrun : (session.run (.collector step)).2 =
        session.mapCollector fun collector => (collector.run step).2 := by
      obtain ⟨source, options, position, rest, tokens, log⟩ := session
      cases log <;> rfl
    rw [hrun]
    exact .collector step

namespace Changes

variable {session later : Session} {step : Step} (h : Changes session step later)

include h

theorem tracked (hsession : session.Tracked) : later.Tracked := by
  cases h with
  | grow _ h => exact h.tracked hsession
  | scan h => exact h.tracked (tracked_restart session)
  | setOptions => exact ⟨hsession.rest_eq, hsession.length_offsets⟩
  | collector => exact hsession.mapCollector _

/-- An error that is added by hand is kept also above the limit. -/
theorem withinLimit (hsession : session.WithinLimit)
    (hstep : ∀ error, step ≠ .collector (.add error)) :
    later.WithinLimit := by
  cases h with
  | grow _ h => exact h.withinLimit hsession
  | scan h => exact h.withinLimit (withinLimit_restart session)
  | setOptions => exact hsession
  | collector step =>
    refine hsession.mapCollector fun _ hcollector => hcollector.run fun error hadd => ?_
    exact hstep error (congrArg Step.collector hadd)

theorem continues (hstep : step ≠ .tokenize) : Continues session later := by
  cases h with
  | grow _ h => exact h.continues
  | scan => exact absurd rfl hstep
  | setOptions | collector => exact ⟨Nat.le_refl _, List.prefix_rfl⟩

theorem sameOrigin : SameOrigin session later := by
  cases h with
  | grow _ h => exact h.sameOrigin
  | scan h => exact (sameOrigin_restart session).trans h.sameOrigin
  | setOptions => exact ⟨rfl, rfl⟩
  | collector step =>
    exact (SameOrigin.refl session).mapCollector fun collector => collector.limit_run step

end Changes

/-! ### Runs -/

/-- What each step keeps, a run keeps. -/
theorem runAll_induction {P : Session → Prop} {steps : List Step}
    (hstep : ∀ session, P session → ∀ step ∈ steps, P (session.run step).2) {session : Session}
    (h : P session) : P (session.runAll steps) := by
  induction steps generalizing session with
  | nil => exact h
  | cons step steps ih =>
    refine ih (fun session h step hmem => hstep session h step (List.mem_cons_of_mem _ hmem)) ?_
    exact hstep session h step List.mem_cons_self

section

variable (logs : Bool) (source : Source) (options : Options)

theorem tracked_fresh : (fresh logs source options).Tracked := by
  cases logs with
  | false => exact ⟨rfl, fun _ hlog => nomatch hlog⟩
  | true =>
    refine ⟨rfl, fun log hlog => ?_⟩
    cases hlog
    rfl

theorem withinLimit_fresh : (fresh logs source options).WithinLimit := by
  cases logs with
  | false => exact fun _ hlog => nomatch hlog
  | true =>
    intro log hlog
    cases hlog
    exact Int.le_max_left 0 _

theorem text_fresh : (fresh logs source options).text = source.text := by
  cases logs <;> rfl

theorem limit_fresh :
    (fresh logs source options).log.map (·.collector.limit) =
      if logs then some options.errorLimit else none := by
  cases logs <;> rfl

end

/-- After any steps, also failed ones, the cursor stands where the position says and a log has one
offset for each token. As long as no error was added by hand, there are no more of them than the
session was opened for. No step but a new scan moves the cursor back or takes recorded tokens away.
-/
theorem runAll_tracked (logs : Bool) (source : Source) (options : Options) (steps : List Step) :
    let reached := (fresh logs source options).runAll steps
    reached.current = source.text[reached.position]? ∧
      reached.log.isSome = logs ∧
      (∀ log ∈ reached.log,
        log.offsets.length = reached.tokens.length ∧
          ((∀ error, .collector (.add error) ∉ steps) →
            log.collector.errors.length ≤ max 0 options.errorLimit)) ∧
      ∀ step, step ≠ .tokenize →
        reached.position ≤ (reached.run step).2.position ∧
          reached.tokens <+: (reached.run step).2.tokens := by
  intro reached
  have htracked : reached.Tracked :=
    runAll_induction (fun session h step _ => (changes_run session step).tracked h)
      (tracked_fresh logs source options)
  have horigin : SameOrigin (fresh logs source options) reached :=
    runAll_induction (fun session h step _ => h.trans (changes_run session step).sameOrigin)
      (SameOrigin.refl _)
  have htext : reached.text = source.text := by
    rw [← text_fresh logs source options, text, text, horigin.source_eq]
  have hlimit := horigin.limit_eq.trans (limit_fresh logs source options)
  refine ⟨?_, ?_, fun log hlog => ⟨htracked.length_offsets log hlog, fun hadd => ?_⟩,
    fun step hstep => ?_⟩
  · rw [current, htracked.rest_eq, htext, List.head?_drop]
  · have hsome := congrArg Option.isSome hlimit
    rw [Option.isSome_map] at hsome
    rw [hsome]
    cases logs <;> rfl
  · have hwithin : reached.WithinLimit :=
      runAll_induction
        (fun session h step hmem => (changes_run session step).withinLimit h fun error heq =>
          hadd error (heq ▸ hmem))
        (withinLimit_fresh logs source options)
    rw [Option.mem_def] at hlog
    rw [hlog, Option.map_some] at hlimit
    have hroom : log.collector.limit = options.errorLimit := by
      cases logs with
      | false => cases hlimit
      | true => exact Option.some.inj hlimit
    rw [← hroom]
    exact hwithin log hlog
  · have hcontinues := (changes_run reached step).continues hstep
    exact ⟨hcontinues.position_le, hcontinues.tokens_prefix⟩

/-- A token that cannot be noted fails its step and is recorded all the same. -/
example :
    ((fresh true ⟨"<input>", ['%']⟩ {}).run (.emit ⟨.unknown, ['a', 'b']⟩ 0)).1.toOption = none ∧
      ((fresh true ⟨"<input>", ['%']⟩ {}).run (.emit ⟨.unknown, ['a', 'b']⟩ 0)).2.tokens =
        [some ⟨.unknown, ['a', 'b']⟩] := by
  decide

/-! ### Scans after other steps -/

/-- A scan looks at the source, at the order of the rules and, with a log, at the limit. -/
theorem tokenize_congr {session other : Session} (h : SameOrigin other session)
    (hlegacy : session.options.legacy = other.options.legacy) :
    session.tokenize =
      (other.tokenize.1, { other.tokenize.2 with options := session.options }) := by
  have htext : session.text = other.text := by rw [text, text, h.source_eq]
  -- The collector is emptied first, so only its limit gets into the new log.
  have hlog (log : Option Log) : (log.map fun log =>
      let diagnosis := Diagnosis.make other.source other.options.legacy log.collector
      ({ offsets := diagnosis.offsets, collector := diagnosis.collector } : Log)) =
      (log.map (·.collector.limit)).map fun limit =>
        let diagnosis := Diagnosis.make other.source other.options.legacy { limit }
        { offsets := diagnosis.offsets, collector := diagnosis.collector } := by
    rw [Option.map_map]
    rfl
  rw [tokenize_eq, tokenize_eq, htext, hlegacy, h.source_eq, hlog, hlog, h.limit_eq]

/-- Whatever was done with a session, a scan does not fail, and gives and leaves behind what it does
in a new session with the limit of the old one, if that reads in the order that is set now. A second
scan changes nothing. -/
theorem tokenize_runAll (logs : Bool) (source : Source) (options : Options) (steps : List Step) :
    let reached := (fresh logs source options).runAll steps
    ∃ tokens ended,
      (fresh logs source { options with legacy := reached.options.legacy }).tokenize =
        (.ok tokens, ended) ∧
      reached.tokenize = (.ok tokens, { ended with options := reached.options }) ∧
      reached.tokenize.2.tokenize = reached.tokenize := by
  intro reached
  let anew := fresh logs source { options with legacy := reached.options.legacy }
  have hanew : SameOrigin anew (fresh logs source options) := by
    cases logs <;> exact ⟨rfl, rfl⟩
  have horigin : SameOrigin anew reached :=
    runAll_induction (fun session h step _ => h.trans (changes_run session step).sameOrigin) hanew
  have hlegacy : reached.options.legacy = anew.options.legacy := by
    cases logs <;> rfl
  have hagain : SameOrigin reached reached.tokenize.2 := (changes_run reached .tokenize).sameOrigin
  refine ⟨_, anew.tokenize.2, by rw [tokenize_eq], ?_, ?_⟩
  · rw [tokenize_congr horigin hlegacy, tokenize_eq anew]
  · rw [tokenize_congr hagain (by rw [tokenize_eq])]

end Session
end Lexical
