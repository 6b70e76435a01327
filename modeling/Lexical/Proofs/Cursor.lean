import Lexical.Proofs.Grammar
import Lexical.Proofs.Lines

/-! Where the cursor of a scan goes. What is unterminated is read to the end of the text, and a
string or character literal one further, as the quote that is missing counts
(`Reading.Fits.width_of_unterminated`). So the widths of the segments add up to the length of the
text, or to one more (`Segment.extent_scan`). The rounds of a scan make a `Session.Trace`, in which
each round moves the cursor on (`Session.trace_rounds`), and `Session.tokenize_cursor` says where
the last of them leaves it. -/

namespace Lexical

open Reading (quote apostrophe tripleQuote commentEnd)

theorem Body.closed_eq_false_of_flaw {body : Body} (h : body.flaw = some .unterminated) :
    body.closed = false := by
  rw [← Bool.not_eq_true]
  intro hclosed
  rw [flaw, if_pos hclosed] at h
  cases h

/-- The missing quotes that the cursor passes. -/
def Cause.openQuotes : List Cause :=
  [.unterminatedLiteral "string", .unterminatedLiteral "character"]

namespace Reading

/-- The missing quote of a string or character literal counts as if it stood after the end. -/
def Overshoots (reading : Reading) : Prop :=
  reading.flaw = some .unterminated ∧
    (reading.form = .token .string ∨ reading.form = .token .character)

instance (reading : Reading) : Decidable reading.Overshoots :=
  inferInstanceAs (Decidable (_ ∧ _))

variable {legacy : Bool} {text : Text} {reading : Reading}

theorem flaw_operator (c : Char) (rest : Text) : (operator (c :: rest)).flaw = none := by
  rcases operator_cons c rest with h | ⟨d, tail, -, h⟩
  · rw [h]
    rfl
  · rw [h]
    rfl

/-- What is unterminated goes on to the end, or one further. -/
theorem Fits.width_of_unterminated (h : Fits legacy text reading)
    (hflaw : reading.flaw = some .unterminated) :
    reading.width = text.length +
      if reading.form = .token .string ∨ reading.form = .token .character then 1 else 0 := by
  cases h with
  | @multilineString rest =>
    have hopen : (Body.read tripleQuote rest).closed = false := Body.closed_eq_false_of_flaw hflaw
    show 3 + (Body.read tripleQuote rest).text.length +
      ((Body.read tripleQuote rest).closing tripleQuote).length = _
    rw [Body.read_of_not_closed hopen, Body.closing, hopen]
    simp [Reading.multilineString, tripleQuote]
    omega
  | @string rest =>
    have hopen : (Body.read [quote] rest).closed = false := Body.closed_eq_false_of_flaw hflaw
    show (Body.read [quote] rest).text.length + 2 = _
    rw [Body.read_of_not_closed hopen]
    rfl
  | @character rest =>
    cases rest with
    | nil => rfl
    | cons c rest =>
      by_cases hc : c = apostrophe
      · subst hc
        cases hflaw
      · rw [character_cons hc] at hflaw ⊢
        cases rest with
        | nil => rfl
        | cons d rest =>
          dsimp only [List.head?_cons] at hflaw
          split at hflaw <;> cases hflaw
  | @documentation rest =>
    have hopen : (Body.read commentEnd rest).closed = false := Body.closed_eq_false_of_flaw hflaw
    show (['/', '*', '*'] ++ (Body.read commentEnd rest).text ++
      (Body.read commentEnd rest).closing commentEnd).length = _
    rw [Body.read_of_not_closed hopen, Body.closing, hopen]
    simp [Reading.documentation]
  | @blockComment rest =>
    have hopen : (Body.read commentEnd rest).closed = false := Body.closed_eq_false_of_flaw hflaw
    show 2 + (Body.read commentEnd rest).text.length +
      ((Body.read commentEnd rest).closing commentEnd).length = _
    rw [Body.read_of_not_closed hopen, Body.closing, hopen]
    simp [Reading.blockComment]
    omega
  | operator =>
    rw [flaw_operator] at hflaw
    cases hflaw
  | _ => cases hflaw

theorem Fits.width_of_overshoots (h : Fits legacy text reading) (hover : reading.Overshoots) :
    reading.width = text.length + 1 := by
  rw [h.width_of_unterminated hover.1, if_pos hover.2]

theorem Fits.width_le_of_not_overshoots (h : Fits legacy text reading)
    (hover : ¬ reading.Overshoots) : reading.width ≤ text.length := by
  by_cases hflaw : reading.flaw = some .unterminated
  · rw [h.width_of_unterminated hflaw, if_neg fun hform => hover ⟨hflaw, hform⟩]
    exact Nat.le_refl _
  · exact h.width_le hflaw

end Reading

theorem Form.of_unterminated_mem_openQuotes {form : Form}
    (h : Anomaly.unterminated form.kind ∈ Cause.openQuotes) :
    form = .token .string ∨ form = .token .character := by
  revert h
  cases form with
  | blank | lineComment | blockComment => decide
  | token kind => cases kind <;> decide

namespace Segment

/-- The cursor of a scan ends one past the end if a reading overshoots, which is then the last one,
and else at the end. -/
theorem extent_scan (legacy : Bool) (text : Text) :
    (∃ segment ∈ scan legacy text, segment.reading.Overshoots) ∧
        extent (scan legacy text) = text.length + 1 ∨
      (∀ segment ∈ scan legacy text, ¬ segment.reading.Overshoots) ∧
        extent (scan legacy text) = text.length := by
  fun_induction scan legacy text with
  | case1 => exact .inr ⟨fun segment hsegment => absurd hsegment List.not_mem_nil, rfl⟩
  | case2 c rest reading ih =>
    have hfits : Reading.Fits legacy (c :: rest) reading := Reading.fits_next legacy c rest
    by_cases hover : reading.Overshoots
    · have hwidth := hfits.width_of_overshoots hover
      refine .inl ⟨⟨_, List.mem_cons_self, hover⟩, ?_⟩
      rw [List.drop_of_length_le (by omega), scan_nil]
      exact hwidth
    · have hwidth := hfits.width_le_of_not_overshoots hover
      rw [List.length_drop] at ih
      rw [extent, List.forall_mem_cons]
      rcases ih with ⟨⟨segment, hsegment, hlast⟩, hextent⟩ | ⟨hnone, hextent⟩
      · refine .inl ⟨⟨segment, List.mem_cons_of_mem _ hsegment, hlast⟩, ?_⟩
        dsimp only
        omega
      · refine .inr ⟨⟨hover, hnone⟩, ?_⟩
        dsimp only
        omega

/-- What overshoots is flagged as unterminated, and tells which quote is missing. -/
theorem overshoots_iff {legacy : Bool} {text : Text} {segment : Segment}
    (h : segment ∈ scan legacy text) :
    segment.reading.Overshoots ↔
      ∃ cause ∈ Cause.openQuotes, segment.cause? = some cause := by
  constructor
  · rintro ⟨hflaw, hform | hform⟩
    · have hcause := cause?_of_unterminated h hflaw
      rw [hform] at hcause
      exact ⟨_, List.mem_cons_self, hcause⟩
    · have hcause := cause?_of_unterminated h hflaw
      rw [hform] at hcause
      exact ⟨_, List.mem_cons_of_mem _ List.mem_cons_self, hcause⟩
  · rintro ⟨cause, hopen, hcause⟩
    rcases (isSome_cause?_iff h).mp (Option.isSome_of_eq_some hcause) with hunknown | hflaw
    · rw [cause?, hunknown] at hcause
      rcases Option.map_eq_some_iff.mp hcause with ⟨c, -, rfl⟩
      rcases List.mem_pair.mp hopen with hc | hc <;> cases hc
    · rw [cause?_of_unterminated h hflaw] at hcause
      cases hcause
      exact ⟨hflaw, Form.of_unterminated_mem_openQuotes hopen⟩

end Segment

namespace Session

/-- A round leads from one session to the next, and moves the cursor on. -/
def Leads (session next : Session) : Prop :=
  session.position < next.position ∧
    ∃ c, session.current = some c ∧ session.round c = (.ok (), next)

theorem leads_of_round {session next : Session} {c : Char} (h : session.current = some c)
    (hround : session.round c = (.ok (), next)) : session.Leads next := by
  refine ⟨?_, c, h, hround⟩
  rw [round_eq h] at hround
  cases hround
  exact Nat.lt_add_of_pos_right (Reading.width_next _ _ _)

theorem scan_of_round {session next : Session} {c : Char} (h : session.current = some c)
    (hround : session.round c = (.ok (), next)) : session.scan = next.scan := by
  have hnext : ((.ok (), next) : Result Unit) =
      (.ok (), session.take session.position
        (Reading.next session.options.legacy c session.rest.tail)) := hround.symm.trans (round_eq h)
  cases hnext
  rw [scan_eq, scan_eq, segments_rest h, ← finish_take]
  rfl

/-- The rounds of a scan, one after the other, until the cursor has passed the end. -/
inductive Trace : Session → List Session → Session → Prop where
  | ended {session : Session} (h : session.current = none) : Trace session [] session
  | round {session next last : Session} {rounds : List Session} (h : session.Leads next)
      (htrace : Trace next rounds last) : Trace session (session :: rounds) last

theorem trace_rounds (session : Session) : Trace session session.rounds session.scan.2 := by
  fun_induction rounds session with
  | case1 session h =>
    rw [scan_eq, rest_eq_nil h, Segment.scan_nil, finish_nil (rest_eq_nil h)]
    exact .ended h
  | case2 session c h next hround ih =>
    rw [scan_of_round h hround]
    exact .round (leads_of_round h hround) ih
  | case3 session c h fault stopped hround =>
    rw [round_eq h] at hround
    cases hround

namespace Trace

variable {session last : Session} {rounds : List Session}

theorem length_le (h : Trace session rounds last) : rounds.length ≤ session.rest.length := by
  induction h with
  | ended => exact Nat.zero_le _
  | round h _ ih =>
    rcases h with ⟨-, c, hcurrent, hround⟩
    have hrest := length_rest_round hcurrent hround
    rw [List.length_cons]
    omega

end Trace

theorem length_rounds (session : Session) :
    session.rounds.length = (Segment.scan session.options.legacy session.rest).length := by
  have hlength := congrArg List.length (position_rounds session)
  rwa [List.length_map, List.length_map, ← List.length_map Prod.snd, Segment.snd_locate] at hlength

/-- A round gives at most one error, and at most one token. -/
theorem errorCount_le_length_rounds (session : Session) :
    errorCount session.options.legacy session.text ≤ session.restart.rounds.length := by
  rw [length_rounds]
  exact List.length_filterMap_le _ _

theorem length_tokenize_le (session : Session) :
    (Lexical.tokenize session.options.legacy session.text).length ≤
      session.restart.rounds.length + 1 := by
  rw [length_rounds, Lexical.tokenize, List.length_append]
  exact Nat.add_le_add_right (List.length_filterMap_le _ _) 1

/-- A diagnosis that keeps all errors tells by its causes whether the cursor of a scan passes the
end. -/
theorem exists_openQuote_iff {source : Source} {options : Options}
    (hlimit : errorCount options.legacy source.text ≤ options.errorLimit) :
    (∃ error ∈ (diagnose source options).collector.errors, error.cause ∈ Cause.openQuotes) ↔
      ∃ segment ∈ Segment.scan options.legacy source.text, segment.reading.Overshoots := by
  constructor
  · rintro ⟨error, herror, hopen⟩
    rcases exists_of_mem_errors herror with ⟨start, segment, cause, hentry, hcause, rfl⟩
    have hsegment := Segment.mem_of_mem_locate hentry
    exact ⟨segment, hsegment, (Segment.overshoots_iff hsegment).mpr ⟨cause, hopen, hcause⟩⟩
  · rintro ⟨segment, hsegment, hover⟩
    rcases (Segment.overshoots_iff hsegment).mp hover with ⟨cause, hopen, hcause⟩
    rcases exists_mem_errors hlimit hsegment hcause with ⟨error, herror, rfl⟩
    exact ⟨error, herror, hopen⟩

/-- A scan ends, whatever was done with the session before. Its rounds each move the cursor on, so
there are no more of them than characters, and the cursor ends at the end of the text, or one past
it. It is one past it exactly if the quote of a string or character literal is missing, which a
diagnosis with room for one error a round tells. The end of input is recorded at the end of the
text, wherever the cursor stands. -/
theorem tokenize_cursor (session : Session) :
    let length := session.text.length
    let rounds := session.restart.rounds
    let ended := session.tokenize.2
    (∃ last, session.restart.scan = (.ok (), last) ∧ Trace session.restart rounds last) ∧
    rounds.length ≤ length ∧
    (∃ tokens, session.tokenize.1 = .ok tokens ∧ tokens.length ≤ length + 1) ∧
    ended.current = none ∧
    (ended.position = length ∨ ended.position = length + 1) ∧
    (∀ (name : Text) (spare : Nat), ∃ diagnosis,
      examine ⟨name, session.text⟩
        { session.options with errorLimit := (rounds.length + spare : Nat) } false = .ok diagnosis ∧
      (ended.position = length + 1 ↔
        ∃ error ∈ diagnosis.collector.errors, error.cause ∈ Cause.openQuotes)) ∧
    ended.log.map (fun log => log.offsets.getLast?) =
      session.log.map fun _ => some (length : Int) := by
  intro length rounds ended
  have htrace := trace_rounds session.restart
  have hrounds : rounds.length ≤ length := htrace.length_le
  have hended : ended = _ := congrArg Prod.snd (tokenize_eq session)
  have hposition : ended.position =
      Segment.extent (Segment.scan session.options.legacy session.text) := by rw [hended]
  have hextent := Segment.extent_scan session.options.legacy session.text
  refine ⟨⟨_, scan_eq session.restart, ?_⟩, hrounds, ?_, ?_, ?_, ?_, ?_⟩
  · rwa [scan_eq] at htrace
  · refine ⟨_, congrArg Prod.fst (tokenize_eq session), ?_⟩
    exact (length_tokenize_le session).trans (Nat.add_le_add_right hrounds 1)
  · rw [hended]
    rfl
  · rcases hextent with ⟨-, hextent⟩ | ⟨-, hextent⟩
    · exact .inr (hposition.trans hextent)
    · exact .inl (hposition.trans hextent)
  · intro name spare
    refine ⟨_, examine_eq _ _ _, ?_⟩
    have hcount : errorCount session.options.legacy session.text ≤ rounds.length :=
      errorCount_le_length_rounds session
    rw [exists_openQuote_iff (by dsimp only; omega), hposition]
    rcases hextent with ⟨hover, hextent⟩ | ⟨hnone, hextent⟩
    · exact iff_of_true hextent hover
    · refine iff_of_false (by omega) ?_
      rintro ⟨segment, hsegment, hover⟩
      exact hnone segment hsegment hover
  · rw [hended]
    cases session.log with
    | none => rfl
    | some log =>
      simp only [Option.map_some, Diagnosis.offsets_make, List.map_append, List.map_singleton,
        List.getLast?_concat]
      rfl

end Session
end Lexical
