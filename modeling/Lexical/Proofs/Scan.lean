import Lexical.Diagnosis
import Lexical.Session

/-! What a scan of a session comes to. A round takes one segment (`round_eq`), so the rounds take
the segments of the text in order (`scan_eq`, `position_rounds`, `tokens_rounds`), no round fails,
and what a session holds after `tokenize` is told by the segments of its source alone
(`tokenize_eq`). -/

namespace Lexical

namespace Segment

/-- The cursor of a scan reaches the end. -/
theorem length_le_extent_scan (legacy : Bool) (text : Text) :
    text.length ≤ extent (scan legacy text) := by
  fun_induction scan legacy text with
  | case1 => exact Nat.zero_le _
  | case2 c rest reading ih =>
    rw [extent]
    rw [List.length_drop] at ih
    exact Nat.sub_le_iff_le_add'.mp ih

/-- The cursor passes the end of a lexeme only at the last segment. -/
theorem locate_scan_drop (legacy : Bool) (start width : Nat) (text : Text) :
    locate (start + width) (scan legacy (text.drop width)) =
      locate (start + (text.take width).length) (scan legacy (text.drop width)) := by
  by_cases hwidth : width ≤ text.length
  · rw [List.length_take_of_le hwidth]
  · rw [List.drop_of_length_le (by omega), scan_nil]
    rfl

theorem snd_tokensAt (start : Nat) (segments : List Segment) :
    (tokensAt (locate start segments)).map Prod.snd = segments.filterMap token? := by
  induction segments generalizing start with
  | nil => rfl
  | cons segment segments ih =>
    rw [locate, tokensAt_cons, List.map_append, ih, List.filterMap_cons]
    cases segment.token? <;> rfl

end Segment

namespace Session

/-- The first segment of the text at the cursor. -/
theorem segments_rest {session : Session} {c : Char} (h : session.current = some c) :
    let reading := Reading.next session.options.legacy c session.rest.tail
    Segment.scan session.options.legacy session.rest =
      ⟨session.rest.take reading.width, reading⟩ ::
        Segment.scan session.options.legacy (session.rest.drop reading.width) := by
  have hscan := Segment.scan_cons session.options.legacy c session.rest.tail
  rwa [← rest_eq_cons h] at hscan

/-- The session after it has taken all segments that are left of its text. -/
def finish (session : Session) (segments : List Segment) : Session :=
  let located := Segment.locate session.position segments
  { session with
    position := session.position + Segment.extent segments
    rest := []
    tokens := session.tokens ++ (segments.filterMap Segment.token?).map some
    log := session.log.map fun log =>
      { offsets := log.offsets ++ (Segment.tokensAt located).map fun (start, _) => (start : Int)
        collector := Segment.noteAll session.source log.collector located } }

theorem finish_nil {session : Session} (h : session.rest = []) : session.finish [] = session := by
  obtain ⟨source, options, position, rest, tokens, log⟩ := session
  cases log <;> simp_all [finish, Segment.extent, Segment.locate, Segment.tokensAt, Segment.noteAll]

/-- The lexeme of a segment that is not the last is as long as the cursor moves. -/
theorem finish_take (session : Session) (reading : Reading) (legacy : Bool) :
    (session.take session.position reading).finish
        (Segment.scan legacy (session.rest.drop reading.width)) =
      session.finish (⟨session.rest.take reading.width, reading⟩ ::
        Segment.scan legacy (session.rest.drop reading.width)) := by
  have hlocate := Segment.locate_scan_drop legacy session.position reading.width session.rest
  cases hlog : session.log <;> cases htoken : reading.token? <;>
    simp [finish, take, advance, hlog, htoken, hlocate, Segment.extent, Segment.locate,
      Segment.tokensAt, Segment.token?, Segment.noteAll, Nat.add_assoc]

theorem scan_eq (session : Session) :
    session.scan =
      (.ok (), session.finish (Segment.scan session.options.legacy session.rest)) := by
  fun_induction scan session with
  | case1 session h =>
    rw [rest_eq_nil h, Segment.scan_nil, finish_nil (rest_eq_nil h)]
  | case2 session c h next hround ih =>
    rw [round_eq h] at hround
    obtain ⟨-, rfl⟩ := Prod.mk.inj hround
    rw [ih, segments_rest h, ← finish_take]
    rfl
  | case3 session c h fault stopped hround =>
    rw [round_eq h] at hround
    cases hround

/-- The sessions at the starts of the rounds of a scan. -/
def rounds (session : Session) : List Session :=
  match _ : session.current with
  | none => []
  | some c =>
    match _ : session.round c with
    | (.ok (), next) => session :: next.rounds
    | (.error _, _) => [session]
termination_by session.rest.length
decreasing_by exact length_rest_round ‹_› ‹_›

/-- A round starts at the first character of its segment. -/
theorem position_rounds (session : Session) :
    session.rounds.map position =
      (Segment.locate session.position (Segment.scan session.options.legacy session.rest)).map
        Prod.fst := by
  fun_induction rounds session with
  | case1 session h => rw [rest_eq_nil h, Segment.scan_nil]; rfl
  | case2 session c h next hround ih =>
    rw [round_eq h] at hround
    obtain ⟨-, rfl⟩ := Prod.mk.inj hround
    rw [List.map_cons, ih, segments_rest h, Segment.locate, List.map_cons,
      ← Segment.locate_scan_drop]
    rfl
  | case3 session c h fault stopped hround =>
    rw [round_eq h] at hround
    cases hround

/-- A round starts with the tokens of the segments before its own. -/
theorem tokens_rounds (session : Session) :
    session.rounds.map tokens =
      (List.range (Segment.scan session.options.legacy session.rest).length).map fun i =>
        session.tokens ++ (((Segment.scan session.options.legacy session.rest).take i).filterMap
          Segment.token?).map some := by
  fun_induction rounds session with
  | case1 session h => rw [rest_eq_nil h, Segment.scan_nil]; rfl
  | case2 session c h next hround ih =>
    rw [round_eq h] at hround
    obtain ⟨-, rfl⟩ := Prod.mk.inj hround
    rw [List.map_cons, ih, segments_rest h, List.length_cons, List.range_succ_eq_map,
      List.map_cons, List.map_map]
    refine List.cons_eq_cons.mpr ⟨(List.append_nil _).symm, List.map_congr_left fun i _ => ?_⟩
    simp only [Function.comp_apply, List.take_succ_cons, List.filterMap_cons, Segment.token?, take]
    cases (Reading.next session.options.legacy c session.rest.tail).token? <;>
      simp [advance]
  | case3 session c h fault stopped hround =>
    rw [round_eq h] at hround
    cases hround

theorem emit_eof (session : Session) (start : Int) :
    session.emit (some .eof) start = (.ok (), session.record (some .eof) start) := by
  have hfault : (session.log.bind fun _ => fault? (some .eof)) = none := by
    cases session.log <;> rfl
  rw [emit, hfault]
  rfl

theorem tokenize_eq (session : Session) :
    session.tokenize =
      (.ok (Lexical.tokenize session.options.legacy session.text),
       { session with
         position := Segment.extent (Segment.scan session.options.legacy session.text)
         rest := []
         tokens := (Lexical.tokenize session.options.legacy session.text).map some
         log := session.log.map fun log =>
           let diagnosis := Diagnosis.make session.source session.options.legacy log.collector
           { offsets := diagnosis.offsets, collector := diagnosis.collector } }) := by
  have hscan : session.restart.scan = (.ok (), session.restart.finish
      (Segment.scan session.options.legacy session.text)) := scan_eq session.restart
  have htokens : [] ++ ((Segment.scan session.options.legacy session.text).filterMap
      Segment.token?).map some ++ [some Token.eof] =
      (Lexical.tokenize session.options.legacy session.text).map some := by
    simp [Lexical.tokenize]
  have hreduce (tokens : List Token) : (tokens.map some).reduceOption = tokens :=
    List.filterMap_map.trans List.filterMap_some
  have hending : min (Segment.extent (Segment.scan session.options.legacy session.text) : Int)
      session.text.length = session.text.length := by
    have := Segment.length_le_extent_scan session.options.legacy session.text
    omega
  rw [tokenize, hscan, Result.andThen_ok]
  dsimp only
  rw [emit_eof, Result.andThen_ok]
  simp only [finish, restart, record, text, Nat.zero_add] at htokens hending ⊢
  rw [htokens, hending, hreduce]
  cases session.log with
  | none => rfl
  | some log => simp [Diagnosis.make, Diagnosis.ofOffsets]

end Session

theorem lex_eq (text : Text) (options : Options) :
    lex text options = .ok (tokenize options.legacy text) := by
  rw [lex, Session.tokenize_eq]
  rfl

theorem tokens_diagnose (source : Source) (options : Options) :
    (diagnose source options).tokens = tokenize options.legacy source.text := by
  simp [diagnose, Diagnosis.make, Diagnosis.ofOffsets, Segment.snd_tokensAt, tokenize]

/-- An examination is the diagnosis, unless it is strict and there are errors. -/
theorem examine_eq (source : Source) (options : Options) (strict : Bool) :
    examine source options strict =
      if strict && (diagnose source options).collector.hasErrors then
        .error (.errorsFound (diagnose source options).collector.report)
      else .ok (diagnose source options) := by
  have hdiagnosis : Diagnosis.ofOffsets source (tokenize options.legacy source.text)
      (diagnose source options).offsets (diagnose source options).collector =
      diagnose source options := by
    rw [← tokens_diagnose]
    rfl
  rw [examine, Session.tokenize_eq]
  cases strict with
  | false => exact congrArg Except.ok hdiagnosis
  | true =>
    change ((diagnose source options).collector.failIfErrors.bind fun _ => .ok
      (Diagnosis.ofOffsets source (tokenize options.legacy source.text)
        (diagnose source options).offsets (diagnose source options).collector)) = _
    rw [hdiagnosis, Collector.failIfErrors, Bool.true_and]
    split <;> rfl

end Lexical
