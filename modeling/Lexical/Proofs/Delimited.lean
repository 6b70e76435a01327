import Lexical.Session.Scan
import Mathlib.Data.List.Infix

/-! Delimited texts. A body ends at the first mark from its start on, or else at the end of the text
(`Text.BodyEnds`), and is read up to there (`Body.exists_read_drop`), also where marks overlap each
other or the mark that opens the body. So the rules for strings, multi-line strings and comments
take what stands up to that place, at whichever offset the cursor is (`Session.seek`), and flag a
body that no mark closes (`Session.rules_stop_at_first_mark`). -/

namespace Lexical

open Reading (quote tripleQuote commentEnd)

namespace Text

/-- Where a body that starts at an offset ends, and whether a mark closes it there: at the first
mark from that offset on, and at the end of a text that has none. -/
inductive BodyEnds (mark text : Text) (i : Nat) : Nat → Bool → Prop where
  | closed {q : Nat} (hle : i ≤ q) (hmark : mark <+: text.drop q)
      (hfirst : ∀ j, i ≤ j → j < q → ¬ mark <+: text.drop j) : BodyEnds mark text i q true
  | unclosed (hnone : ∀ j, i ≤ j → ¬ mark <+: text.drop j) : BodyEnds mark text i text.length false

variable {mark text : Text} {i q : Nat} {closed : Bool}

/-- A body ends at one place only. -/
theorem BodyEnds.unique {q' : Nat} {closed' : Bool} (h : BodyEnds mark text i q closed)
    (h' : BodyEnds mark text i q' closed') : q = q' ∧ closed = closed' := by
  cases h with
  | closed hle hmark hfirst =>
    cases h' with
    | closed hle' hmark' hfirst' =>
      have hbefore : ¬ q < q' := fun hlt => hfirst' q hle hlt hmark
      have hafter : ¬ q' < q := fun hlt => hfirst q' hle' hlt hmark'
      exact ⟨by omega, rfl⟩
    | unclosed hnone => exact absurd hmark (hnone q hle)
  | unclosed hnone =>
    cases h' with
    | closed hle' hmark' => exact absurd hmark' (hnone q' hle')
    | unclosed => exact ⟨rfl, rfl⟩

theorem BodyEnds.le (h : BodyEnds mark text i q closed) (hi : i ≤ text.length) : i ≤ q := by
  cases h with
  | closed hle => exact hle
  | unclosed => exact hi

theorem add_length_le_of_prefix_drop (hne : mark ≠ []) (h : mark <+: text.drop i) :
    i + mark.length ≤ text.length := by
  have hlength := h.length_le
  have hpos := List.length_pos_iff.mpr hne
  rw [List.length_drop] at hlength
  omega

theorem BodyEnds.length_extract (h : BodyEnds mark text i q closed) (hmark : mark ≠ []) :
    (text.extract i q).length = q - i := by
  have hle : q ≤ text.length := by
    cases h with
    | closed _ hthere =>
      exact Nat.le_trans (Nat.le_add_right q _) (add_length_le_of_prefix_drop hmark hthere)
    | unclosed => exact Nat.le_refl _
  rw [List.extract_eq_take_drop, List.length_take, List.length_drop]
  omega

/-- The place after a body counts the closing mark where it stands. -/
theorem BodyEnds.add_length (h : BodyEnds mark text i q closed) (hmark : mark ≠ [])
    (hi : i ≤ text.length) :
    i + (text.extract i q).length + ((⟨text.extract i q, closed⟩ : Body).closing mark).length =
      if closed then q + mark.length else q := by
  have hle := h.le hi
  rw [h.length_extract hmark, Nat.add_sub_cancel' hle]
  cases closed <;> rfl

theorem extract_append_extract {j k : Nat} (hij : i ≤ j) (hjk : j ≤ k) :
    text.extract i j ++ text.extract j k = text.extract i k := by
  obtain ⟨m, rfl⟩ := Nat.exists_eq_add_of_le hij
  obtain ⟨n, rfl⟩ := Nat.exists_eq_add_of_le hjk
  have hdrop : text.drop (i + m) = (text.drop i).drop m := List.drop_drop.symm
  have hwidth : i + m + n - i = m + n := by omega
  rw [List.extract_eq_take_drop, List.extract_eq_take_drop, List.extract_eq_take_drop,
    Nat.add_sub_cancel_left, Nat.add_sub_cancel_left, hwidth, hdrop, ← List.take_add]

theorem eq_extract_of_prefix_drop (h : mark <+: text.drop i) :
    mark = text.extract i (i + mark.length) := by
  rw [List.extract_eq_take_drop, Nat.add_sub_cancel_left]
  exact List.prefix_iff_eq_take.mp h

/-- A body with the mark that opens it and, if there is one, the mark that closes it. -/
theorem BodyEnds.append_extract {opening : Text} {p : Nat}
    (h : BodyEnds mark text (p + opening.length) q closed) (hne : opening ≠ [])
    (hopening : opening <+: text.drop p) :
    opening ++ text.extract (p + opening.length) q ++
        (⟨text.extract (p + opening.length) q, closed⟩ : Body).closing mark =
      text.extract p (if closed then q + mark.length else q) := by
  have hle := h.le (add_length_le_of_prefix_drop hne hopening)
  have hopened : opening ++ text.extract (p + opening.length) q = text.extract p q := by
    rw [← extract_append_extract (Nat.le_add_right p opening.length) hle,
      ← eq_extract_of_prefix_drop hopening]
  rw [hopened]
  cases h with
  | closed _ hmark =>
    have hpq : p ≤ q := Nat.le_trans (Nat.le_add_right p _) hle
    rw [Body.closing, if_pos rfl, if_pos rfl,
      ← extract_append_extract hpq (Nat.le_add_right q mark.length),
      ← eq_extract_of_prefix_drop hmark]
  | unclosed => exact List.append_nil _

/-- A mark that stands before the end of a body would have been the first. -/
theorem not_prefix_drop_of_before? {body : Text} (hmark : mark ≠ [])
    (h : before? mark text = some body) : ∀ j < body.length, ¬ mark <+: text.drop j := by
  intro j hj hthere
  obtain ⟨rest, rfl⟩ := exists_append_of_before? h
  have hshorter : (body ++ mark).dropLast.drop j <+: (body ++ mark ++ rest).drop j :=
    List.IsPrefix.drop ((List.dropLast_prefix _).trans (List.prefix_append _ _)) j
  have hwithin : mark.length ≤ ((body ++ mark).dropLast.drop j).length := by
    rw [List.length_drop, List.length_dropLast, List.length_append]
    omega
  have hearly := List.prefix_of_prefix_length_le hthere hshorter hwithin
  exact not_infix_dropLast_of_before? hmark h (hearly.isInfix.trans (List.drop_suffix j _).isInfix)

end Text

/-- A body is read up to where it ends. -/
theorem Body.exists_read_drop {mark : Text} (hmark : mark ≠ []) (text : Text) (i : Nat) :
    ∃ q closed, Text.BodyEnds mark text i q closed ∧
      Body.read mark (text.drop i) = ⟨text.extract i q, closed⟩ := by
  cases h : Text.before? mark (text.drop i) with
  | none =>
    refine ⟨text.length, false, .unclosed fun j hj hthere => ?_, ?_⟩
    · refine (Text.before?_eq_none_iff hmark).mp h (hthere.isInfix.trans ?_)
      rw [← Nat.add_sub_cancel' hj, ← List.drop_drop]
      exact (List.drop_suffix (j - i) (text.drop i)).isInfix
    · rw [read, h, List.extract_eq_take_drop, ← List.length_drop, List.take_length]
  | some body =>
    obtain ⟨rest, hrest⟩ := Text.exists_append_of_before? h
    rw [List.append_assoc] at hrest
    have hthere : mark <+: text.drop (i + body.length) := by
      rw [← List.drop_drop, hrest, List.drop_left]
      exact List.prefix_append mark rest
    refine ⟨i + body.length, true, .closed (Nat.le_add_right i _) hthere fun j hij hj => ?_, ?_⟩
    · have hnot := Text.not_prefix_drop_of_before? hmark h (j - i) (by omega)
      rwa [List.drop_drop, Nat.add_sub_cancel' hij] at hnot
    · rw [read, h, List.extract_eq_take_drop, Nat.add_sub_cancel_left, hrest, List.take_left]

namespace Session

/-! ### A cursor anywhere -/

/-- The session with its cursor at an offset of the text. -/
def seek (session : Session) (p : Nat) : Session :=
  { session with position := p, rest := session.text.drop p }

@[simp] theorem rest_seek (session : Session) (p : Nat) :
    (session.seek p).rest = session.text.drop p := rfl

theorem advance_seek (session : Session) (p n : Nat) :
    (session.seek p).advance n = session.seek (p + n) := by
  simp [seek, advance, List.drop_drop]

/-- What becomes of a session after a body, which is flagged if no mark closes it. -/
def flagUnless (session : Session) (closed : Bool) (kind : Kind) (start : Int) : Session :=
  if closed then session else session.flag kind start .unterminated

/-- Where there is room for one more error, the errors tell whether a body was flagged. -/
theorem errors_flagUnless (session : Session) {log : Log} (hlog : session.log = some log)
    (hroom : log.collector.isFull = false) (closed : Bool) (kind : Kind) (start : Int) :
    (session.flagUnless closed kind start).log.map (·.collector.errors) =
      some (log.collector.errors ++ if closed then [] else
        [⟨Anomaly.unterminated kind, session.source.location start,
          session.source.line start⟩]) := by
  cases closed with
  | true => simp [flagUnless, hlog]
  | false =>
    simp [flagUnless, flag, note, mapCollector, hlog, Anomaly.ofFlaw, Collector.note,
      Collector.addWithin, hroom, Collector.add]

/-- A token that is no anomaly is recorded, and nothing else. -/
theorem take_eq_record {reading : Reading} {token : Token} (htoken : reading.token? = some token)
    (hplain : Anomaly.ofToken? token = none) (session : Session) (start : Int) :
    session.take start reading = (session.pass start reading).record token start := by
  cases hflaw : reading.flaw <;> cases hlog : session.log <;>
    simp [take, pass, flag, note, mapCollector, record, advance, Reading.anomalies, htoken, hplain,
      hflaw, hlog]

variable (session : Session) (start : Int) {p : Nat}

theorem pass_seek (form : Form) (value : Text) (width : Nat) (body : Body) :
    (session.seek p).pass start ⟨form, value, width, body.flaw⟩ =
      (session.seek (p + width)).flagUnless body.closed form.kind start := by
  rw [pass_body, advance_seek]
  rfl

variable {session} in
/-- A width that counts the opening characters, the body and the mark where it stands. -/
theorem pass_seek_of_bodyEnds {mark : Text} {opened q : Nat} {closed : Bool}
    (h : Text.BodyEnds mark session.text (p + opened) q closed) (hmark : mark ≠ [])
    (hinside : p + opened ≤ session.text.length) (form : Form) (value : Text) :
    let body : Body := ⟨session.text.extract (p + opened) q, closed⟩
    (session.seek p).pass start
        ⟨form, value, opened + body.text.length + (body.closing mark).length, body.flaw⟩ =
      (session.seek (if closed then q + mark.length else q)).flagUnless closed form.kind start := by
  intro body
  rw [pass_seek, ← h.add_length hmark hinside, Nat.add_assoc, Nat.add_assoc, Nat.add_assoc]

/-! ### One lemma for each rule -/

/-- The closing quote counts also where it is missing. -/
theorem collectString_seek (hp : p < session.text.length) :
    ∃ q closed, Text.BodyEnds [quote] session.text (p + 1) q closed ∧
      (session.seek p).collectString start =
        (session.text.extract (p + 1) q,
         (session.seek (q + 1)).flagUnless closed .string start) := by
  have hmark : [quote] ≠ [] := List.cons_ne_nil _ _
  obtain ⟨q, closed, hends, hread⟩ := Body.exists_read_drop hmark session.text (p + 1)
  refine ⟨q, closed, hends, ?_⟩
  have hwidth : p + ((session.text.extract (p + 1) q).length + 2) = q + 1 := by
    have hle := hends.le hp
    rw [hends.length_extract hmark]
    omega
  rw [collectString_eq, Reading.string, rest_seek, List.drop_drop, hread, pass_seek, hwidth]
  rfl

theorem collectMultilineString_seek (hopening : tripleQuote <+: session.text.drop p) :
    ∃ q closed, Text.BodyEnds tripleQuote session.text (p + 3) q closed ∧
      (session.seek p).collectMultilineString start =
        (session.text.extract (p + 3) q,
         (session.seek (if closed then q + 3 else q)).flagUnless closed
           .multilineString start) := by
  have hmark : tripleQuote ≠ [] := List.cons_ne_nil _ _
  obtain ⟨q, closed, hends, hread⟩ := Body.exists_read_drop hmark session.text (p + 3)
  have hinside := Text.add_length_le_of_prefix_drop hmark hopening
  refine ⟨q, closed, hends, ?_⟩
  rw [collectMultilineString_eq, Reading.multilineString, rest_seek, List.drop_drop, hread]
  exact congrArg (Prod.mk _) (pass_seek_of_bodyEnds start hends hmark hinside _ _)

theorem take_blockComment_seek (hopening : ['/', '*'] <+: session.text.drop p) :
    ∃ q closed, Text.BodyEnds commentEnd session.text (p + 2) q closed ∧
      (session.seek p).take start (Reading.blockComment (session.text.drop p)) =
        (session.seek (if closed then q + 2 else q)).flagUnless closed .comment start := by
  have hmark : commentEnd ≠ [] := List.cons_ne_nil _ _
  obtain ⟨q, closed, hends, hread⟩ := Body.exists_read_drop hmark session.text (p + 2)
  have hinside := Text.add_length_le_of_prefix_drop (List.cons_ne_nil _ _) hopening
  refine ⟨q, closed, hends, ?_⟩
  rw [take_eq_pass rfl, Reading.blockComment, List.drop_drop, hread]
  exact pass_seek_of_bodyEnds start hends hmark hinside _ _

theorem take_documentation_seek (hopening : ['/', '*', '*'] <+: session.text.drop p) :
    ∃ q closed, Text.BodyEnds commentEnd session.text (p + 3) q closed ∧
      (session.seek p).take start (Reading.documentation (session.text.drop p)) =
        ((session.seek (if closed then q + 2 else q)).flagUnless closed .documentation start).record
          (some ⟨.documentation, session.text.extract p (if closed then q + 2 else q)⟩) start := by
  have hmark : commentEnd ≠ [] := List.cons_ne_nil _ _
  have hne : ['/', '*', '*'] ≠ [] := List.cons_ne_nil _ _
  obtain ⟨q, closed, hends, hread⟩ := Body.exists_read_drop hmark session.text (p + 3)
  have hvalue : ['/', '*', '*'] ++ session.text.extract (p + 3) q ++
      (⟨session.text.extract (p + 3) q, closed⟩ : Body).closing commentEnd =
        session.text.extract p (if closed then q + 2 else q) := hends.append_extract hne hopening
  have hwidth : (session.text.extract p (if closed then q + 2 else q)).length =
      3 + (session.text.extract (p + 3) q).length +
        ((⟨session.text.extract (p + 3) q, closed⟩ : Body).closing commentEnd).length := by
    rw [← hvalue, List.length_append, List.length_append]
    rfl
  have hinside := Text.add_length_le_of_prefix_drop hne hopening
  refine ⟨q, closed, hends, ?_⟩
  rw [take_eq_record rfl rfl, Reading.documentation, List.drop_drop, hread]
  dsimp only
  rw [hvalue, hwidth]
  exact congrArg (Session.record · _ start) (pass_seek_of_bodyEnds start hends hmark hinside _ _)

/-- On the opening mark of a comment, the two characters after it tell how it is read. -/
theorem skipComment_seek (hopening : ['/', '*'] <+: session.text.drop p) :
    (session.seek p).skipComment start = (.ok (), (session.seek p).take start
      (if session.text[p + 2]? = some '*' ∧ session.text[p + 3]? ≠ some '/' then
        Reading.documentation (session.text.drop p)
      else Reading.blockComment (session.text.drop p))) := by
  have hsecond : (session.text.drop p)[1]? ≠ some '/' := by
    obtain ⟨rest, hrest⟩ := hopening
    rw [← hrest]
    exact fun h => absurd (Option.some.inj h) (by decide)
  rw [skipComment_eq, Reading.comment, rest_seek, if_neg hsecond, List.getElem?_drop,
    List.getElem?_drop]

theorem prefix_drop_of_star (hopening : ['/', '*'] <+: session.text.drop p)
    (hstar : session.text[p + 2]? = some '*') : ['/', '*', '*'] <+: session.text.drop p := by
  obtain ⟨rest, hrest⟩ := hopening
  rw [← List.getElem?_drop, ← hrest] at hstar
  obtain ⟨tail, rfl⟩ : ∃ tail, rest = '*' :: tail :=
    List.head?_eq_some_iff.mp (List.head?_eq_getElem?.trans hstar)
  exact ⟨tail, hrest⟩

/-- The rules for delimited texts stop at the first closing mark, wherever the cursor of a session
is and whichever start they are told. A string ends at the first quote after the cursor, a
multi-line string at the first triple quote after the one at the cursor, a comment after the first
star and slash that follow its opening characters; a documentation comment is recorded whole, and a
block comment is passed over. What is not closed goes on to the end of the text and is flagged,
which the errors tell as long as the collector has room. -/
theorem rules_stop_at_first_mark (hp : p < session.text.length) :
    let text := session.text
    (∃ q closed, Text.BodyEnds [quote] text (p + 1) q closed ∧
      (session.seek p).collectString start =
        (text.extract (p + 1) q, (session.seek (q + 1)).flagUnless closed .string start)) ∧
    (tripleQuote <+: text.drop p →
      ∃ q closed, Text.BodyEnds tripleQuote text (p + 3) q closed ∧
        (session.seek p).collectMultilineString start =
          (text.extract (p + 3) q,
           (session.seek (if closed then q + 3 else q)).flagUnless closed .multilineString start)) ∧
    (['/', '*'] <+: text.drop p →
      if text[p + 2]? = some '*' ∧ text[p + 3]? ≠ some '/' then
        ∃ q closed, Text.BodyEnds commentEnd text (p + 3) q closed ∧
          let past := if closed then q + 2 else q
          (session.seek p).skipComment start =
            (.ok (), ((session.seek past).flagUnless closed .documentation start).record
              (some ⟨.documentation, text.extract p past⟩) start)
      else
        ∃ q closed, Text.BodyEnds commentEnd text (p + 2) q closed ∧
          (session.seek p).skipComment start =
            (.ok (),
             (session.seek (if closed then q + 2 else q)).flagUnless closed .comment start)) ∧
    (∀ log, session.log = some log → log.collector.isFull = false → ∀ past closed kind,
      ((session.seek past).flagUnless closed kind start).log.map (·.collector.errors) =
        some (log.collector.errors ++ if closed then [] else
          [⟨Anomaly.unterminated kind, session.source.location start,
            session.source.line start⟩])) := by
  intro text
  refine ⟨collectString_seek session start hp, collectMultilineString_seek session start, ?_, ?_⟩
  · intro hopening
    rw [skipComment_seek session start hopening]
    split
    · next hstars =>
      have hopening := prefix_drop_of_star session hopening hstars.1
      obtain ⟨q, closed, hends, htake⟩ := take_documentation_seek session start hopening
      exact ⟨q, closed, hends, congrArg (Prod.mk _) htake⟩
    · obtain ⟨q, closed, hends, htake⟩ := take_blockComment_seek session start hopening
      exact ⟨q, closed, hends, congrArg (Prod.mk _) htake⟩
  · intro log hlog hroom past closed kind
    exact errors_flagUnless (session.seek past) hlog hroom closed kind start

/-- The third star closes the comment, with the slash after it. -/
theorem rules_stop_at_first_mark_stars :
    let session := Session.diagnostic ⟨['x'], ['/', '*', '*', '*', '/', '*', '/']⟩ {}
    0 < session.text.length ∧
      session.skipComment 0 =
        (.ok (),
         (session.advance 5).record (some ⟨.documentation, ['/', '*', '*', '*', '/']⟩) 0) := by
  intro session
  have hp : 0 < session.text.length := by decide
  obtain ⟨-, -, hcomment, -⟩ := rules_stop_at_first_mark session 0 hp
  obtain ⟨q, closed, hends, hskip⟩ := hcomment (by decide)
  have hfirst : Text.BodyEnds commentEnd session.text 3 3 true :=
    .closed (Nat.le_refl 3) (by decide) fun j hle hlt => absurd hle (Nat.not_le_of_lt hlt)
  obtain ⟨rfl, rfl⟩ := hends.unique hfirst
  exact ⟨hp, hskip⟩

end Session
end Lexical
