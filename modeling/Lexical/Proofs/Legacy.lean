import Lexical.Proofs.Choice
import Lexical.Proofs.Restart

/-! The two orders of the rules. They differ where a triple quote is met: what the default order
reads as a multi-line string, the legacy order reads as an empty string first; every other text has
the same reading (`Fits.legacy`, `Fits.eq_of_multilineString`). So the two scans of a text go in
step up to the first multi-line string of the default one (`Segment.scan_legacy`), and a diagnosis
under the legacy order differs from the default one from there on, or not at all (`examine_legacy`).
-/

namespace Lexical

open Reading (quote tripleQuote)

/-! ### One reading in the two orders -/

namespace Reading

/-- The first two characters of a triple quote. -/
def emptyString : Reading := ⟨.token .string, [], 2, none⟩

/-- Only one rule gives multi-line strings, and the legacy order leaves it out. -/
theorem Fits.eq_of_multilineString {legacy : Bool} {text : Text} {reading : Reading}
    (h : Fits legacy text reading) (hform : reading.form = .token .multilineString) :
    legacy = false ∧ tripleQuote <+: text := by
  cases h with
  | @multilineString rest horder => exact ⟨horder, List.prefix_append tripleQuote rest⟩
  | word =>
    simp only [Reading.word, ofToken, Token.ofWord] at hform
    split at hform <;> cases hform
  | numeral =>
    simp only [Reading.numeral, ofToken, Token.ofNumeral] at hform
    split at hform <;> cases hform
  | @character rest =>
    have htoken := token?_character (apostrophe :: rest)
    rw [token?, hform] at htoken
    cases htoken
  | @operator c rest =>
    rcases operator_cons c rest with hsingle | ⟨d, tail, -, hpair⟩
    · rw [hsingle, operator.single] at hform
      simp only [ofToken] at hform
      split at hform <;> cases hform
    · rw [hpair] at hform
      cases hform
  | _ => cases hform

/-- The legacy order reads what is no multi-line string as the default order does. -/
theorem Fits.legacy {text : Text} {reading : Reading} (h : Fits false text reading)
    (hform : reading.form ≠ .token .multilineString) : Fits true text reading := by
  cases h with
  | multilineString => exact absurd rfl hform
  | string => exact .string (.inl rfl)
  | blanks hc => exact .blanks hc
  | newline => exact .newline
  | word hc => exact .word hc
  | numeral hc => exact .numeral hc
  | character => exact .character
  | lineComment => exact .lineComment
  | documentation hrest => exact .documentation hrest
  | blockComment hrest => exact .blockComment hrest
  | separator hc => exact .separator hc
  | special hc => exact .special hc
  | operator hblank hnewline hletter hnumeral hquote hapostrophe hcomment hseparator hspecial =>
    exact .operator hblank hnewline hletter hnumeral hquote hapostrophe hcomment hseparator hspecial

/-- The second quote of a triple quote closes the string that the first one opens. -/
theorem fits_emptyString {text : Text} (h : tripleQuote <+: text) : Fits true text emptyString := by
  obtain ⟨rest, rfl⟩ := h
  have hstring : string (tripleQuote ++ rest) = emptyString := by
    simp [string, emptyString, tripleQuote, Body.read_singleton, Body.flaw]
  rw [← hstring]
  exact .string (.inl rfl)

end Reading

/-! ### Scans in step -/

namespace Segment

/-- No segment is a multi-line string. -/
def Plain (segments : List Segment) : Prop :=
  ∀ segment ∈ segments, segment.reading.form ≠ .token .multilineString

theorem plain_scan_legacy (text : Text) : Plain (scan true text) := by
  intro segment h hform
  obtain ⟨rest, hfits, -⟩ := fits_of_mem_scan h
  cases (hfits.eq_of_multilineString hform).1

/-- The scans in the two orders are the same, or they are the same up to a segment that is a
multi-line string in the default order and an empty string in the legacy order. -/
theorem scan_legacy (text : Text) :
    (Plain (scan false text) ∧ scan true text = scan false text) ∨
      ∃ before segment after lexeme following, Plain before ∧
        segment.reading.form = .token .multilineString ∧
        scan false text = before ++ segment :: after ∧
        scan true text = before ++ ⟨lexeme, .emptyString⟩ :: following := by
  fun_induction scan false text with
  | case1 => exact .inl ⟨by simp [Plain], scan_nil true⟩
  | case2 c rest reading ih =>
    have hfits : Reading.Fits false (c :: rest) reading := Reading.fits_next false c rest
    by_cases hform : reading.form = .token .multilineString
    · have htriple := (hfits.eq_of_multilineString hform).2
      exact .inr ⟨[], _, _, _, _, by simp [Plain], hform, rfl,
        scan_of_fits (Reading.fits_emptyString htriple)⟩
    · have hscan := scan_of_fits (hfits.legacy hform)
      rcases ih with ⟨hplain, hrest⟩ | ⟨before, segment, after, lexeme, following, hplain, hsegment,
        hdefault, hlegacy⟩
      · refine .inl ⟨List.forall_mem_cons.mpr ⟨hform, hplain⟩, ?_⟩
        rw [hscan, hrest]
      · refine .inr ⟨⟨(c :: rest).take reading.width, reading⟩ :: before, segment, after, lexeme,
          following, List.forall_mem_cons.mpr ⟨hform, hplain⟩, hsegment, ?_, ?_⟩
        · rw [hdefault]
          rfl
        · rw [hscan, hlegacy]
          rfl

/-- A segment gives a multi-line string token if it is read as one. -/
theorem kind_token? {segment : Segment} {token : Token} (h : segment.token? = some token) :
    segment.reading.form = .token token.kind := by
  rw [token?, Reading.token?] at h
  split at h
  · next hform =>
    cases h
    exact hform
  · cases h

theorem Plain.kind_ne {segments : List Segment} (h : Plain segments) {start : Nat}
    {entry : Nat × Token} (hentry : entry ∈ tokensAt (locate start segments)) :
    entry.2.kind ≠ .multilineString := by
  have htoken := List.mem_map_of_mem (f := Prod.snd) hentry
  rw [snd_tokensAt] at htoken
  obtain ⟨segment, hsegment, htoken⟩ := List.mem_filterMap.mp htoken
  intro hkind
  exact h segment hsegment (by rw [kind_token? htoken, hkind])

theorem tokensAt_locate_append (start : Nat) (segments following : List Segment) :
    tokensAt (locate start (segments ++ following)) =
      tokensAt (locate start segments) ++
        tokensAt (locate (start + (segments.map lexeme).flatten.length) following) := by
  rw [locate_append]
  exact List.filterMap_append

/-- The start of a token is the length of the lexemes before it. -/
theorem starts_of_scan {legacy : Bool} {text : Text} {before after : List Segment}
    {segment : Segment}
    {token : Token} (hscan : scan legacy text = before ++ segment :: after)
    (htoken : segment.token? = some token) :
    ∃ following, starts legacy text =
      tokensAt (locate 0 before) ++ ((before.map lexeme).flatten.length, token) :: following := by
  rw [starts, hscan, tokensAt_locate_append, locate, tokensAt_cons, htoken, Nat.zero_add,
    List.append_assoc]
  exact ⟨_, rfl⟩

end Segment

/-- The tokens in the two orders, with their offsets, are the same, or they are the same up to a
multi-line string of the default order. An empty string starts there in the legacy order. -/
theorem starts_legacy (text : Text) :
    ((∀ entry ∈ starts false text, entry.2.kind ≠ .multilineString) ∧
      Segment.scan true text = Segment.scan false text) ∨
      ∃ before start value after following,
        (∀ entry ∈ before, entry.2.kind ≠ .multilineString) ∧
        starts false text = before ++ (start, ⟨.multilineString, value⟩) :: after ∧
        starts true text = before ++ (start, ⟨.string, []⟩) :: following := by
  rcases Segment.scan_legacy text with ⟨hplain, hscan⟩ | ⟨before, segment, after, lexeme, following,
    hplain, hsegment, hdefault, hlegacy⟩
  · refine .inl ⟨fun entry hentry => ?_, hscan⟩
    rcases List.mem_append.mp hentry with hentry | hentry
    · exact hplain.kind_ne hentry
    · cases List.mem_singleton.mp hentry
      exact Kind.noConfusion
  · have htoken : segment.token? = some ⟨.multilineString, segment.reading.value⟩ := by
      rw [Segment.token?, Reading.token?, hsegment]
    obtain ⟨afterward, hdefault⟩ := Segment.starts_of_scan hdefault htoken
    obtain ⟨instead, hlegacy⟩ := Segment.starts_of_scan hlegacy rfl
    exact .inr ⟨_, _, _, afterward, instead, fun entry hentry => hplain.kind_ne hentry, hdefault,
      hlegacy⟩

/-- No multi-line string comes out of the legacy order. -/
theorem kind_ne_of_mem_tokenize {text : Text} {token : Token} (h : token ∈ tokenize true text) :
    token.kind ≠ .multilineString := by
  rcases List.mem_append.mp h with h | h
  · obtain ⟨segment, hsegment, htoken⟩ := List.mem_filterMap.mp h
    intro hkind
    refine Segment.plain_scan_legacy text segment hsegment ?_
    rw [Segment.kind_token? htoken, hkind]
  · rw [List.mem_singleton.mp h]
    decide

/-! ### Diagnoses in the two orders -/

section

variable (source : Source) (limit : Int)

/-- The diagnosis in one of the two orders. -/
def diagnoseIn (legacy : Bool) : Diagnosis := diagnose source { legacy, errorLimit := limit }

theorem tokens_diagnoseIn (legacy : Bool) :
    (diagnoseIn source limit legacy).tokens = (starts legacy source.text).map Prod.snd := rfl

theorem offsets_diagnoseIn (legacy : Bool) :
    (diagnoseIn source limit legacy).offsets =
      (starts legacy source.text).map fun entry => (entry.1 : Int) := rfl

theorem lex_diagnoseIn (legacy : Bool) :
    lex source.text { legacy, errorLimit := limit } =
      .ok (diagnoseIn source limit legacy).tokens := by
  rw [lex_eq, diagnoseIn, tokens_diagnose]

variable {source limit}

theorem diagnoseIn_legacy_eq
    (h : ∀ token ∈ (diagnoseIn source limit false).tokens, token.kind ≠ .multilineString) :
    diagnoseIn source limit true = diagnoseIn source limit false := by
  rcases starts_legacy source.text with ⟨-, hscan⟩ | ⟨before, start, value, after, following, -,
    hdefault, -⟩
  · rw [diagnoseIn, diagnoseIn, diagnose, diagnose, Diagnosis.make, Diagnosis.make, hscan]
  · rw [tokens_diagnoseIn, hdefault] at h
    exact absurd rfl (h ⟨.multilineString, value⟩ (by simp))

/-- Up to the first multi-line string. -/
theorem diagnoseIn_legacy_agrees {i : Nat}
    (h : (diagnoseIn source limit false).tokens.findIdx? (·.kind = .multilineString) = some i) :
    let modern := diagnoseIn source limit false
    let legacy := diagnoseIn source limit true
    legacy.tokens.take i = modern.tokens.take i ∧
      legacy.offsets.take i = modern.offsets.take i ∧
      legacy.tokens[i]? = some ⟨.string, []⟩ ∧
      ∃ start : Nat, legacy.offsets[i]? = some (start : Int) ∧
        modern.offsets[i]? = some (start : Int) := by
  dsimp only
  simp only [tokens_diagnoseIn, offsets_diagnoseIn] at h ⊢
  rcases starts_legacy source.text with ⟨hplain, -⟩ |
    ⟨before, start, value, after, following, hplain, hdefault, hlegacy⟩
  · obtain ⟨hi, hkind, -⟩ := List.findIdx?_eq_some_iff_getElem.mp h
    rw [List.getElem_map, decide_eq_true_eq] at hkind
    exact absurd hkind (hplain _ (List.getElem_mem _))
  · have hi : i = before.length := by
      have hnone : (before.map Prod.snd).findIdx? (·.kind = .multilineString) = none := by
        simpa [List.findIdx?_eq_none_iff] using hplain
      rw [hdefault, List.map_append, List.findIdx?_append, hnone, List.map_cons,
        List.findIdx?_cons] at h
      simpa using h.symm
    subst hi
    rw [hdefault, hlegacy]
    refine ⟨by simp, by simp, by simp, start, by simp, by simp⟩

end

/-- The two orders on one source. Under the legacy order no token is a multi-line string. If none is
under the default order, the diagnoses are the same. Otherwise the tokens and offsets are the same
up to the first multi-line string, and an empty string stands in its place; so the tokens differ. -/
theorem examine_legacy (source : Source) (limit : Int) :
    ∃ modern legacy,
      examine source { legacy := false, errorLimit := limit } false = .ok modern ∧
      examine source { legacy := true, errorLimit := limit } false = .ok legacy ∧
      lex source.text { legacy := false, errorLimit := limit } = .ok modern.tokens ∧
      lex source.text { legacy := true, errorLimit := limit } = .ok legacy.tokens ∧
      (∀ token ∈ legacy.tokens, token.kind ≠ .multilineString) ∧
      ((∀ token ∈ modern.tokens, token.kind ≠ .multilineString) → legacy = modern) ∧
      (∀ i, modern.tokens.findIdx? (·.kind = .multilineString) = some i →
        legacy.tokens.take i = modern.tokens.take i ∧
        legacy.offsets.take i = modern.offsets.take i ∧
        legacy.tokens[i]? = some ⟨.string, []⟩ ∧
        ∃ start : Nat, legacy.offsets[i]? = some (start : Int) ∧
          modern.offsets[i]? = some (start : Int)) ∧
      (legacy.tokens = modern.tokens ↔
        ∀ token ∈ modern.tokens, token.kind ≠ .multilineString) := by
  have hkind : ∀ token ∈ (diagnoseIn source limit true).tokens, token.kind ≠ .multilineString := by
    intro token htoken
    rw [diagnoseIn, tokens_diagnose] at htoken
    exact kind_ne_of_mem_tokenize htoken
  refine ⟨diagnoseIn source limit false, diagnoseIn source limit true, examine_eq _ _ false,
    examine_eq _ _ false, lex_diagnoseIn source limit false, lex_diagnoseIn source limit true,
    hkind, diagnoseIn_legacy_eq, fun i => diagnoseIn_legacy_agrees, fun hsame => ?_,
    fun hnone => ?_⟩
  · rwa [hsame] at hkind
  · rw [diagnoseIn_legacy_eq hnone]

example :
    (lex "\"\"\"a\"\"\"" {}).toOption = some [⟨.multilineString, ['a']⟩, .eof] ∧
      (lex "\"\"\"a\"\"\"" { legacy := true }).toOption =
        some [⟨.string, []⟩, ⟨.string, ['a']⟩, ⟨.string, []⟩, .eof] := by
  decide +kernel

end Lexical
