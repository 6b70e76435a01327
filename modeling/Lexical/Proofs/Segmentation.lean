import Lexical.Proofs.Scan
import Mathlib.Data.List.TakeWhile

/-! Lossless segmentation. What the characters of a segment have to be is said without the scanning
rules (`Reading.Spells`): a segment spells the token that it gives. The rule that is chosen takes
such characters (`Fits.spellsAt`), so a scan cuts its text into segments that spell what they are
read as, and `tokenize` gives their tokens in order, with the starts of their lexemes
(`Session.tokenize_lossless`). -/

namespace Lexical

open Reading (quote apostrophe tripleQuote commentEnd)

/-- A text between two marks. The closing mark can be missing only where the source ends. -/
def Delimited (opening closing value lexeme following : Text) : Prop :=
  ¬ closing <:+: value ∧
    (lexeme = opening ++ value ++ closing ∨ lexeme = opening ++ value ∧ following = [])

/-- The lexemes of a token that the given text follows. Whatever stands in its place closes a
character literal. No lexeme spells a token of the other kinds. -/
def Kind.Spells (kind : Kind) (value lexeme following : Text) : Prop :=
  match kind with
  | .keyword | .identifier | .number | .float | .operator | .separator | .special | .unknown =>
    lexeme = value
  | .documentation =>
    lexeme = value ∧ ∃ body, Delimited ['/', '*', '*'] commentEnd body lexeme following
  | .newline => lexeme = ['\n'] ∧ value = Token.newlineValue
  | .string => Delimited [quote] [quote] value lexeme following
  | .multilineString => Delimited tripleQuote tripleQuote value lexeme following
  | .character =>
    value.length ≤ 1 ∧
      ((∃ closing, lexeme = [apostrophe] ++ value ++ [closing]) ∨
        lexeme = [apostrophe] ++ value ∧ following = [])
  | .whitespace | .comment | .boolean | .template | .eof => False

def Reading.Spells (reading : Reading) (lexeme following : Text) : Prop :=
  match reading.form with
  | .blank => ∀ c ∈ lexeme, Text.isBlank c
  | .lineComment =>
    ['/', '/'] <+: lexeme ∧ '\n' ∉ lexeme ∧ ∀ c ∈ following.head?, c = '\n'
  | .blockComment => Delimited ['/', '*'] commentEnd reading.value lexeme following
  | .token kind => kind.Spells reading.value lexeme following

/-- The reading spells what its width takes of a text. -/
def Reading.SpellsAt (reading : Reading) (text : Text) : Prop :=
  reading.Spells (text.take reading.width) (text.drop reading.width)

namespace Segment

/-- The segments cut a text into consecutive lexemes that are not empty, each of which spells what
it is read as. -/
inductive Cuts : Text → List Segment → Prop where
  | nil : Cuts [] []
  | cons {segment : Segment} {following : Text} {segments : List Segment}
      (hlexeme : segment.lexeme ≠ []) (hspells : segment.reading.Spells segment.lexeme following)
      (hsegments : Cuts following segments) :
      Cuts (segment.lexeme ++ following) (segment :: segments)

end Segment

/-! ### Lexemes with a body -/

/-- A lexeme of an opening mark, the body that is read after it and the mark that closes the body.
Nothing follows if that mark is missing. -/
structure Body.Spans (opening mark text lexeme following : Text) : Prop where
  lexeme_eq : lexeme = opening ++ (read mark text).text ++ (read mark text).closing mark
  following_eq : (read mark text).closed = false → following = []

namespace Body

/-- A width may count a mark that is missing, and still takes the rest of the text. -/
theorem spans_take (opening mark text : Text) {width : Nat}
    (hwidth : opening.length + (read mark text).text.length +
      ((read mark text).closing mark).length ≤ width)
    (hclosed : (read mark text).closed → width =
      opening.length + (read mark text).text.length + mark.length) :
    Spans opening mark text ((opening ++ text).take width) ((opening ++ text).drop width) := by
  obtain ⟨rest, htext, hrest⟩ := append_read mark text
  have happend : opening ++ text =
      (opening ++ (read mark text).text ++ (read mark text).closing mark) ++ rest := by
    rw [List.append_assoc, List.append_assoc, ← List.append_assoc _ _ rest, ← htext]
  cases h : (read mark text).closed with
  | true =>
    have hlength : (opening ++ (read mark text).text ++
        (read mark text).closing mark).length = width := by
      rw [hclosed h]
      simp [closing, h, Nat.add_assoc]
    refine ⟨?_, fun hfalse => ?_⟩
    · rw [happend, List.take_left' hlength]
    · rw [h] at hfalse
      cases hfalse
  | false =>
    have hlength : (opening ++ text).length ≤ width := by
      rw [happend, hrest h, List.append_nil]
      simpa [Nat.add_assoc] using hwidth
    refine ⟨?_, fun _ => List.drop_of_length_le hlength⟩
    rw [List.take_of_length_le hlength, happend, hrest h, List.append_nil]

/-- A width that counts the closing mark where it stands. -/
theorem spans_closing (opening mark text : Text) :
    let width := opening.length + (read mark text).text.length +
      ((read mark text).closing mark).length
    Spans opening mark text ((opening ++ text).take width) ((opening ++ text).drop width) :=
  spans_take opening mark text (Nat.le_refl _) fun hclosed => by rw [closing, if_pos hclosed]

theorem Spans.delimited {opening mark text lexeme following : Text}
    (h : Spans opening mark text lexeme following) (hmark : mark ≠ []) :
    Delimited opening mark (read mark text).text lexeme following := by
  obtain ⟨rfl, hfollowing⟩ := h
  refine ⟨not_infix_read hmark text, ?_⟩
  rw [closing]
  cases hclosed : (read mark text).closed with
  | true => exact .inl rfl
  | false => exact .inr ⟨by simp, hfollowing hclosed⟩

end Body

namespace Reading

theorem spans_string (rest : Text) :
    Body.Spans [quote] [quote] rest ((quote :: rest).take (string (quote :: rest)).width)
      ((quote :: rest).drop (string (quote :: rest)).width) := by
  refine Body.spans_take [quote] [quote] rest ?_ fun _ => ?_
  · simp only [string, Body.closing, List.drop_one, List.tail_cons, List.length_singleton]
    split <;> simp <;> omega
  · simp only [string, List.drop_one, List.tail_cons, List.length_singleton]
    omega

theorem spans_multilineString (rest : Text) :
    let text := tripleQuote ++ rest
    Body.Spans tripleQuote tripleQuote rest (text.take (multilineString text).width)
      (text.drop (multilineString text).width) :=
  Body.spans_closing tripleQuote tripleQuote rest

theorem spans_documentation (rest : Text) :
    let text := ['/', '*', '*'] ++ rest
    Body.Spans ['/', '*', '*'] commentEnd rest (text.take (documentation text).width)
      (text.drop (documentation text).width) := by
  have hwidth : (documentation (['/', '*', '*'] ++ rest)).width =
      3 + (Body.read commentEnd rest).text.length +
        ((Body.read commentEnd rest).closing commentEnd).length := by
    simp [documentation]
    omega
  dsimp only
  rw [hwidth]
  exact Body.spans_closing ['/', '*', '*'] commentEnd rest

theorem spans_blockComment (rest : Text) :
    let text := ['/', '*'] ++ rest
    Body.Spans ['/', '*'] commentEnd rest (text.take (blockComment text).width)
      (text.drop (blockComment text).width) :=
  Body.spans_closing ['/', '*'] commentEnd rest

end Reading

/-! ### One lemma for each way of reading -/

namespace Reading

/-- A token whose value starts the text, and that is as wide as its value. -/
theorem spellsAt_ofToken {token : Token} {text : Text} (hvalue : token.value <+: text)
    (hkind : ∀ following, token.kind.Spells token.value token.value following) :
    (ofToken token).SpellsAt text := by
  have htake : text.take (ofToken token).width = token.value :=
    (List.prefix_iff_eq_take.mp hvalue).symm
  rw [SpellsAt, htake]
  exact hkind _

theorem spellsAt_blanks (text : Text) : (blanks text).SpellsAt text := by
  intro c hc
  have htake : text.take (blanks text).width = text.takeWhile Text.isBlank :=
    (List.prefix_iff_eq_take.mp (List.takeWhile_prefix _)).symm
  rw [htake] at hc
  exact List.mem_takeWhile_imp hc

theorem spellsAt_newline (rest : Text) : newline.SpellsAt ('\n' :: rest) := ⟨rfl, rfl⟩

theorem spellsAt_word (text : Text) : (word text).SpellsAt text := by
  refine spellsAt_ofToken (List.takeWhile_prefix _) fun following => ?_
  unfold Token.ofWord
  split <;> rfl

theorem spellsAt_numeral (text : Text) : (numeral text).SpellsAt text := by
  refine spellsAt_ofToken (List.takeWhile_prefix _) fun following => ?_
  unfold Token.ofNumeral
  split <;> rfl

theorem spellsAt_string (rest : Text) : (string (quote :: rest)).SpellsAt (quote :: rest) :=
  (spans_string rest).delimited (by simp)

theorem spellsAt_multilineString (rest : Text) :
    (multilineString (tripleQuote ++ rest)).SpellsAt (tripleQuote ++ rest) :=
  (spans_multilineString rest).delimited (by simp [tripleQuote])

theorem spellsAt_character (rest : Text) :
    (character (apostrophe :: rest)).SpellsAt (apostrophe :: rest) := by
  cases rest with
  | nil => exact ⟨by decide, .inr ⟨rfl, rfl⟩⟩
  | cons c rest =>
    by_cases hc : c = apostrophe
    · subst hc
      exact ⟨Nat.zero_le _, .inl ⟨apostrophe, rfl⟩⟩
    rw [character_cons hc]
    cases rest with
    | nil => exact ⟨by simp, .inr ⟨rfl, rfl⟩⟩
    | cons d rest => exact ⟨by simp, .inl ⟨d, rfl⟩⟩

theorem spellsAt_lineComment (rest : Text) :
    (lineComment ('/' :: '/' :: rest)).SpellsAt ('/' :: '/' :: rest) := by
  have hrun : ('/' :: '/' :: rest).takeWhile (· != '\n') =
      '/' :: '/' :: rest.takeWhile (· != '\n') := rfl
  have htake : ('/' :: '/' :: rest).take (lineComment ('/' :: '/' :: rest)).width =
      ('/' :: '/' :: rest).takeWhile (· != '\n') :=
    (List.prefix_iff_eq_take.mp (List.takeWhile_prefix _)).symm
  have hdrop : ('/' :: '/' :: rest).drop (lineComment ('/' :: '/' :: rest)).width =
      ('/' :: '/' :: rest).dropWhile (· != '\n') := Text.drop_length_takeWhile _ _
  rw [SpellsAt, htake, hdrop]
  refine ⟨⟨rest.takeWhile (· != '\n'), hrun.symm⟩, fun hmem => ?_, fun c hc => ?_⟩
  · simpa using List.mem_takeWhile_imp hmem
  · rw [Text.head?_dropWhile_ne] at hc
    split at hc
    · exact (Option.some.inj hc).symm
    · cases hc

theorem spellsAt_documentation (rest : Text) :
    (documentation ('/' :: '*' :: '*' :: rest)).SpellsAt ('/' :: '*' :: '*' :: rest) := by
  have hspans := spans_documentation rest
  exact ⟨hspans.lexeme_eq, _, hspans.delimited (by simp [commentEnd])⟩

theorem spellsAt_blockComment (rest : Text) :
    (blockComment ('/' :: '*' :: rest)).SpellsAt ('/' :: '*' :: rest) :=
  (spans_blockComment rest).delimited (by simp [commentEnd])

theorem spellsAt_operator (c : Char) (rest : Text) :
    (operator (c :: rest)).SpellsAt (c :: rest) := by
  have hsingle : (operator.single c).SpellsAt (c :: rest) := by
    refine spellsAt_ofToken ⟨rest, rfl⟩ fun following => ?_
    dsimp only
    split <;> rfl
  obtain h | ⟨d, tail, rfl, h⟩ := operator_cons c rest
  · rw [h]
    exact hsingle
  · rw [h]
    exact spellsAt_ofToken ⟨tail, rfl⟩ fun _ => rfl

theorem Fits.spellsAt {legacy : Bool} {text : Text} {reading : Reading}
    (h : Fits legacy text reading) : reading.SpellsAt text := by
  cases h with
  | blanks => exact spellsAt_blanks _
  | newline => exact spellsAt_newline _
  | word => exact spellsAt_word _
  | numeral => exact spellsAt_numeral _
  | multilineString => exact spellsAt_multilineString _
  | string => exact spellsAt_string _
  | character => exact spellsAt_character _
  | lineComment => exact spellsAt_lineComment _
  | documentation => exact spellsAt_documentation _
  | blockComment => exact spellsAt_blockComment _
  | separator => exact spellsAt_ofToken ⟨_, rfl⟩ fun _ => rfl
  | special => exact spellsAt_ofToken ⟨_, rfl⟩ fun _ => rfl
  | operator => exact spellsAt_operator _ _

end Reading

/-! ### The segments of a scan -/

namespace Segment

theorem cuts_scan (legacy : Bool) (text : Text) : Cuts text (scan legacy text) := by
  fun_induction scan legacy text with
  | case1 => exact .nil
  | case2 c rest reading ih =>
    have hwidth : 0 < reading.width := Reading.width_next legacy c rest
    have hspells : reading.SpellsAt (c :: rest) := (Reading.fits_next legacy c rest).spellsAt
    have hlexeme : (c :: rest).take reading.width ≠ [] := by
      rw [Ne, List.take_eq_nil_iff, not_or]
      exact ⟨by omega, List.cons_ne_nil c rest⟩
    have hcuts := @Cuts.cons ⟨(c :: rest).take reading.width, reading⟩ _ _ hlexeme hspells ih
    rwa [List.take_append_drop] at hcuts

/-- What follows a located segment is the rest of the text. -/
theorem Cuts.spells_of_mem {text : Text} {segments : List Segment} (h : Cuts text segments)
    {start : Nat} {entry : Nat × Segment} (hentry : entry ∈ locate start segments) :
    ∃ following, entry.2.reading.Spells entry.2.lexeme following ∧
      entry.1 + entry.2.lexeme.length + following.length = start + text.length := by
  induction h generalizing start with
  | nil => cases hentry
  | @cons segment following segments _ hspells _ ih =>
    obtain rfl | hentry := List.mem_cons.mp hentry
    · exact ⟨following, hspells, by rw [List.length_append, Nat.add_assoc]⟩
    · obtain ⟨after, hafter, hlength⟩ := ih hentry
      exact ⟨after, hafter, by rw [hlength, List.length_append, Nat.add_assoc]⟩

theorem le_of_mem_tokensAt {start : Nat} {segments : List Segment} {entry : Nat × Token}
    (h : entry ∈ tokensAt (locate start segments)) : start ≤ entry.1 := by
  induction segments generalizing start with
  | nil => cases h
  | cons segment segments ih =>
    rw [locate, tokensAt_cons, List.mem_append] at h
    obtain h | h := h
    · obtain ⟨token, -, rfl⟩ := Option.map_eq_some_iff.mp (Option.mem_toList.mp h)
      exact Nat.le_refl start
    · exact Nat.le_trans (Nat.le_add_right _ _) (ih h)

/-- Tokens start one after the other, and before the end of the text. -/
theorem Cuts.pairwise_starts {text : Text} {segments : List Segment} (h : Cuts text segments)
    (start : Nat) :
    ((tokensAt (locate start segments)).map Prod.fst ++
      [start + text.length]).Pairwise (· < ·) := by
  induction h generalizing start with
  | nil => simp [locate, tokensAt]
  | @cons segment following segments hlexeme _ _ ih =>
    have hlength : 0 < segment.lexeme.length := List.length_pos_iff.mpr hlexeme
    have htail := ih (start + segment.lexeme.length)
    rw [Nat.add_assoc, ← List.length_append] at htail
    rw [locate, tokensAt_cons]
    cases segment.token? with
    | none => exact htail
    | some token =>
      have hnext : ∀ next ∈ (tokensAt (locate (start + segment.lexeme.length) segments)).map
          Prod.fst ++ [start + (segment.lexeme ++ following).length], start < next := by
        intro next hnext
        obtain hnext | hnext := List.mem_append.mp hnext
        · obtain ⟨entry, hentry, rfl⟩ := List.mem_map.mp hnext
          have := le_of_mem_tokensAt hentry
          omega
        · rw [List.mem_singleton.mp hnext, List.length_append]
          omega
      exact .cons hnext htail

end Segment

/-- A scan loses nothing, whatever was done with the session before. Its rounds start at consecutive
lexemes that make up the source, each with the tokens of the lexemes before it; a log ends with the
starts of the lexemes that give tokens, and the length of the source. -/
theorem Session.tokenize_lossless (session : Session) :
    ∃ segments : List Segment,
      Segment.Cuts session.text segments ∧
      (segments.map Segment.lexeme).flatten = session.text ∧
      session.restart.rounds.map position = (Segment.locate 0 segments).map Prod.fst ∧
      session.restart.rounds.map tokens = (List.range segments.length).map (fun i =>
        ((segments.take i).filterMap Segment.token?).map some) ∧
      session.tokenize.1 = .ok (segments.filterMap Segment.token? ++ [.eof]) ∧
      ∃ starts : List Nat,
        starts = (Segment.tokensAt (Segment.locate 0 segments)).map Prod.fst ++
          [session.text.length] ∧
        starts.Pairwise (· < ·) ∧
        session.tokenize.2.log.map Log.offsets =
          session.log.map fun _ => starts.map Int.ofNat := by
  have hcuts := Segment.cuts_scan session.options.legacy session.text
  refine ⟨_, hcuts, ?_, ?_, ?_, ?_, _, rfl, ?_, ?_⟩
  · exact Segment.flatten_lexemes session.options.legacy session.text
  · exact position_rounds session.restart
  · exact tokens_rounds session.restart
  · rw [tokenize_eq]
    rfl
  · simpa using hcuts.pairwise_starts 0
  · rw [tokenize_eq]
    cases session.log <;> simp [Diagnosis.make, Diagnosis.ofOffsets, text]

end Lexical
