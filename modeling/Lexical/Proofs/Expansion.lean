import Lexical.Proofs.Legacy
import Lexical.Proofs.Spelling

/-! Multi-line strings under the legacy order. The first two quotes of each mark make an empty
string there, and the third ones enclose the body; so a multi-line string that holds no quote is
scanned as three strings, and the scans in the two orders meet again where it ends
(`Segment.scan_legacy_parts`). The legacy scan is the default one with these strings in place of
each multi-line string (`Segment.scan_legacy_eq_flatMap`), and so are its tokens
(`examine_legacy_eq_flatMap`). -/

namespace Lexical

open Reading (quote tripleQuote)

/-- What a token of the default order is under the legacy order, with the offsets from its start. -/
def Token.parts (token : Token) : List (Nat × Token) :=
  if token.kind = .multilineString then
    [(0, ⟨.string, []⟩), (2, ⟨.string, token.value⟩), (token.value.length + 4, ⟨.string, []⟩)]
  else [(0, token)]

/-- The parts of a token that starts at an offset. -/
def Token.partsAt (entry : Nat × Token) : List (Nat × Token) :=
  entry.2.parts.map fun part => (entry.1 + part.1, part.2)

namespace Segment

/-- A string between its quotes. -/
def ofString (body : Text) : Segment :=
  ⟨[quote] ++ body ++ [quote], ⟨.token .string, body, ([quote] ++ body ++ [quote]).length, none⟩⟩

/-- What a segment of the default order is under the legacy order. -/
def parts (segment : Segment) : List Segment :=
  if segment.reading.form = .token .multilineString then
    [ofString [], ofString segment.reading.value, ofString []]
  else [segment]

/-- A multi-line string has its end, and holds no quote. -/
def QuoteFree (segment : Segment) : Prop :=
  segment.reading.form = .token .multilineString →
    segment.lexeme = tripleQuote ++ segment.reading.value ++ tripleQuote ∧
      quote ∉ segment.reading.value

/-! ### One segment in the two orders -/

/-- The parts cut the lexeme. -/
theorem QuoteFree.flatten_parts {segment : Segment} (h : segment.QuoteFree) :
    (segment.parts.map lexeme).flatten = segment.lexeme := by
  by_cases hform : segment.reading.form = .token .multilineString
  · rw [parts, if_pos hform, (h hform).1]
    simp [ofString, tripleQuote]
  · rw [parts, if_neg hform]
    simp

theorem scan_legacy_ofString {body : Text} (h : quote ∉ body) (more : Text) :
    scan true ((ofString body).lexeme ++ more) = ofString body :: scan true more := by
  have hspelling := Reading.string_spelling h
  have hflaw : (Reading.string ([quote] ++ body ++ [quote])).flaw ≠ some .unterminated := by
    rw [hspelling]
    exact nofun
  have hfits : Reading.Fits true ([quote] ++ body ++ [quote] ++ more)
      (.string ([quote] ++ body ++ [quote] ++ more)) := .string (.inl rfl)
  rw [Reading.string_append (Nat.le_add_left 1 _) hflaw more, hspelling] at hfits
  have hscan := scan_of_fits hfits
  rwa [List.take_left, List.drop_left] at hscan

/-- Three strings, each from where the one before it ends. -/
theorem scan_legacy_parts {segment : Segment} (h : segment.QuoteFree)
    (hform : segment.reading.form = .token .multilineString) (more : Text) :
    scan true (segment.lexeme ++ more) = segment.parts ++ scan true more := by
  have hempty : quote ∉ ([] : Text) := List.not_mem_nil
  rw [← h.flatten_parts, parts, if_pos hform]
  simp only [List.map_cons, List.map_nil, List.flatten_cons, List.flatten_nil, List.append_nil,
    List.append_assoc]
  rw [scan_legacy_ofString hempty, scan_legacy_ofString (h hform).2, scan_legacy_ofString hempty]
  rfl

theorem scan_legacy_eq_flatMap {text : Text} (h : ∀ segment ∈ scan false text, segment.QuoteFree) :
    scan true text = (scan false text).flatMap parts := by
  fun_induction scan false text with
  | case1 => exact scan_nil true
  | case2 c rest reading =>
    rename_i ih
    obtain ⟨hfirst, hafter⟩ := List.forall_mem_cons.mp h
    have hfits : Reading.Fits false (c :: rest) reading := Reading.fits_next false c rest
    rw [List.flatMap_cons, ← ih hafter]
    by_cases hform : reading.form = .token .multilineString
    · rw [← scan_legacy_parts hfirst hform, List.take_append_drop]
    · rw [parts, if_neg hform, scan_of_fits (hfits.legacy hform)]
      rfl

theorem tokensAt_parts (start : Nat) (segment : Segment) :
    tokensAt (locate start segment.parts) =
      (segment.token?.map (start, ·)).toList.flatMap Token.partsAt := by
  by_cases hform : segment.reading.form = .token .multilineString
  · have htoken : segment.token? = some ⟨.multilineString, segment.reading.value⟩ := by
      rw [token?, Reading.token?, hform]
    rw [parts, if_pos hform, htoken]
    simp [locate, tokensAt, ofString, token?, Reading.token?, Token.partsAt, Token.parts]
    omega
  · rw [parts, if_neg hform, locate, tokensAt_cons]
    cases htoken : segment.token? with
    | none => rfl
    | some token =>
      have hkind : token.kind ≠ .multilineString := fun hkind =>
        hform (by rw [kind_token? htoken, hkind])
      simp [Token.partsAt, Token.parts, hkind, locate, tokensAt]

/-- Strings that have their ends are no errors. -/
theorem cause?_ofString (body : Text) : (ofString body).cause? = none := by
  have hclosed : ¬ (ofString body).Lacks [quote] [quote] :=
    not_not_intro (List.suffix_append body [quote]).isInfix
  exact if_neg hclosed

theorem QuoteFree.cause? {segment : Segment} (h : segment.QuoteFree)
    (hform : segment.reading.form = .token .multilineString) : segment.cause? = none := by
  have hclosed : ¬ segment.Lacks tripleQuote tripleQuote := by
    rw [Lacks, (h hform).1]
    exact not_not_intro (List.suffix_append segment.reading.value tripleQuote).isInfix
  rw [Segment.cause?, hform]
  exact if_neg hclosed

/-! ### All segments -/

section

variable {segments : List Segment} (h : ∀ segment ∈ segments, segment.QuoteFree)

include h

/-- The parts of the segments start where the segments do. -/
theorem locate_flatMap_parts (start : Nat) :
    locate start (segments.flatMap parts) =
      (locate start segments).flatMap fun entry => locate entry.1 entry.2.parts := by
  induction segments generalizing start with
  | nil => rfl
  | cons segment segments ih =>
    obtain ⟨hfirst, hafter⟩ := List.forall_mem_cons.mp h
    rw [List.flatMap_cons, locate_append, hfirst.flatten_parts, ih hafter, locate,
      List.flatMap_cons]

theorem tokensAt_flatMap_parts (start : Nat) :
    tokensAt (locate start (segments.flatMap parts)) =
      (tokensAt (locate start segments)).flatMap Token.partsAt := by
  rw [locate_flatMap_parts h, tokensAt, List.filterMap_flatMap, tokensAt,
    List.filterMap_eq_flatMap_toList, List.flatMap_assoc]
  exact List.flatMap_congr fun entry _ => tokensAt_parts entry.1 entry.2

/-- What is said of no string that has its end is said of the same segments in the two orders. -/
theorem filterMap_locate_parts {α : Type} {f : Nat × Segment → Option α}
    (hstring : ∀ start body, f (start, ofString body) = none)
    (hmultiline : ∀ start, ∀ segment : Segment, segment.QuoteFree →
      segment.reading.form = .token .multilineString → f (start, segment) = none) (start : Nat) :
    (locate start (segments.flatMap parts)).filterMap f = (locate start segments).filterMap f := by
  rw [locate_flatMap_parts h, List.filterMap_flatMap, List.filterMap_eq_flatMap_toList]
  refine List.flatMap_congr fun ⟨offset, segment⟩ hentry => ?_
  by_cases hform : segment.reading.form = .token .multilineString
  · have hnone := hmultiline offset segment (h segment (mem_of_mem_locate hentry)) hform
    simp [parts, hform, locate, hstring, hnone]
  · rw [parts, if_neg hform, locate, locate]
    cases hf : f (offset, segment) <;> simp [hf]

end

end Segment

/-! ### The two orders -/

theorem starts_legacy_eq_flatMap {text : Text}
    (h : ∀ segment ∈ Segment.scan false text, segment.QuoteFree) :
    starts true text = (starts false text).flatMap Token.partsAt := by
  rw [starts, starts, Segment.scan_legacy_eq_flatMap h, Segment.tokensAt_flatMap_parts h,
    List.flatMap_append]
  rfl

theorem collector_legacy_eq {source : Source} {limit : Int}
    (h : ∀ segment ∈ Segment.scan false source.text, segment.QuoteFree) :
    (diagnoseIn source limit true).collector = (diagnoseIn source limit false).collector := by
  have herrors : Segment.errors source (Segment.locate 0 (Segment.scan true source.text)) =
      Segment.errors source (Segment.locate 0 (Segment.scan false source.text)) := by
    rw [Segment.scan_legacy_eq_flatMap h]
    exact Segment.filterMap_locate_parts h
      (fun start body => Option.map_eq_none_iff.mpr (Segment.cause?_ofString body))
      (fun start segment hsegment hform => Option.map_eq_none_iff.mpr (hsegment.cause? hform)) 0
  have hwarnings : Segment.warnings source (Segment.locate 0 (Segment.scan true source.text)) =
      Segment.warnings source (Segment.locate 0 (Segment.scan false source.text)) := by
    rw [Segment.scan_legacy_eq_flatMap h]
    refine Segment.filterMap_locate_parts h (fun start body => rfl)
      (fun start segment _ hform => Option.map_eq_none_iff.mpr ?_) 0
    rw [Segment.complaint?, hform]
  rw [diagnoseIn, diagnoseIn, collector_diagnose, collector_diagnose, herrors, hwarnings]

/-- The legacy order keeps all tokens but multi-line strings, where each of these has its end and
holds no quote. Three strings stand in their places, the body between two empty ones. The same
errors and warnings are found. -/
theorem examine_legacy_eq_flatMap (source : Source) (limit : Int)
    (h : ∀ segment ∈ Segment.scan false source.text, segment.QuoteFree) :
    ∃ modern legacy,
      examine source { legacy := false, errorLimit := limit } false = .ok modern ∧
      examine source { legacy := true, errorLimit := limit } false = .ok legacy ∧
      lex source.text { legacy := false, errorLimit := limit } = .ok modern.tokens ∧
      lex source.text { legacy := true, errorLimit := limit } = .ok legacy.tokens ∧
      legacy.tokens = modern.tokens.flatMap (fun token => token.parts.map Prod.snd) ∧
      legacy.offsets = (modern.offsets.zip modern.tokens).flatMap (fun entry =>
        entry.2.parts.map fun part => entry.1 + part.1) ∧
      legacy.collector = modern.collector := by
  refine ⟨diagnoseIn source limit false, diagnoseIn source limit true, examine_eq _ _ false,
    examine_eq _ _ false, lex_diagnoseIn source limit false, lex_diagnoseIn source limit true,
    ?_, ?_, collector_legacy_eq h⟩
  · rw [tokens_diagnoseIn, tokens_diagnoseIn, starts_legacy_eq_flatMap h, List.map_flatMap,
      List.flatMap_map]
    exact List.flatMap_congr fun entry _ => by simp [Token.partsAt]
  · rw [offsets_diagnoseIn, offsets_diagnoseIn, tokens_diagnoseIn, starts_legacy_eq_flatMap h,
      List.zip_map', List.map_flatMap, List.flatMap_map]
    exact List.flatMap_congr fun entry _ => by simp [Token.partsAt]

/-- A string right after a multi-line string, three quotes in a comment, and a multi-line string
with nothing in it. -/
theorem examine_legacy_eq_flatMap_quotes :
    let text : Text := "\"\"\"a\n'\"\"\"\"b\"% // \"\"\"\n\"\"\"\"\"\".1."
    (∀ segment ∈ Segment.scan false text, segment.QuoteFree) ∧
      ∃ modern legacy,
        examine ⟨"<input>", text⟩ { legacy := false, errorLimit := 100 } false = .ok modern ∧
        examine ⟨"<input>", text⟩ { legacy := true, errorLimit := 100 } false = .ok legacy ∧
        lex text { legacy := false, errorLimit := 100 } = .ok modern.tokens ∧
        lex text { legacy := true, errorLimit := 100 } = .ok legacy.tokens ∧
        legacy.tokens = modern.tokens.flatMap (fun token => token.parts.map Prod.snd) ∧
        legacy.offsets = (modern.offsets.zip modern.tokens).flatMap (fun entry =>
          entry.2.parts.map fun part => entry.1 + part.1) ∧
        legacy.collector = modern.collector := by
  intro text
  have hfree : ∀ segment ∈ Segment.scan false text, segment.QuoteFree := by
    unfold Segment.QuoteFree
    decide +kernel
  exact ⟨hfree, examine_legacy_eq_flatMap ⟨"<input>", text⟩ 100 hfree⟩

end Lexical
