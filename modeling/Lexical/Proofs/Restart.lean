import Lexical.Proofs.Scan

/-! Scans can be started at any token. The segment of a token is the first one of the text from its
start on (`Segment.exists_scan_drop`), so what is left of a scan there is the scan of what is left
of the text (`tokenize_drop`, `examine_restarts`). -/

namespace Lexical

namespace Segment

/-- A scan from the start of a segment begins with it. -/
theorem exists_scan_drop_of_mem {legacy : Bool} {text : Text} {base : Nat} {entry : Nat × Segment}
    (h : entry ∈ locate base (scan legacy text)) :
    ∃ n following, entry.1 = base + n ∧ scan legacy (text.drop n) = entry.2 :: following := by
  fun_induction scan legacy text generalizing base with
  | case1 => cases h
  | case2 c rest reading =>
    rename_i ih
    rcases List.mem_cons.mp h with rfl | h
    · exact ⟨0, _, rfl, scan_cons legacy c rest⟩
    · obtain ⟨n, following, hstart, hscan⟩ := ih h
      refine ⟨((c :: rest).take reading.width).length + n, following, ?_, ?_⟩
      · rw [hstart, Nat.add_assoc]
      · rw [Text.drop_length_take_add, hscan]

/-- An entry of the located tokens: a scan from its start begins with the segment that it comes from
and goes on with the segments of the later tokens. -/
theorem exists_scan_drop {legacy : Bool} {text : Text} {base i start : Nat} {token : Token}
    (h : (tokensAt (locate base (scan legacy text)))[i]? = some (start, token)) :
    ∃ n segment following, start = base + n ∧ scan legacy (text.drop n) = segment :: following ∧
      segment.token? = some token ∧
      ((scan legacy text).filterMap token?).drop i = token :: following.filterMap token? := by
  fun_induction scan legacy text generalizing base i with
  | case1 => simp [locate, tokensAt] at h
  | case2 c rest reading =>
    rename_i ih
    rw [locate, tokensAt_cons] at h
    -- An entry after the first segment is one of the scan that is left.
    have hlater : ∀ j, (tokensAt (locate (base + ((c :: rest).take reading.width).length)
        (scan legacy ((c :: rest).drop reading.width))))[j]? = some (start, token) →
        ∃ n segment following, start = base + n ∧
          scan legacy ((c :: rest).drop n) = segment :: following ∧ segment.token? = some token ∧
          ((scan legacy ((c :: rest).drop reading.width)).filterMap token?).drop j =
            token :: following.filterMap token? := by
      intro j hentry
      obtain ⟨n, segment, following, hstart, hscan, htoken, htokens⟩ := ih hentry
      refine ⟨((c :: rest).take reading.width).length + n, segment, following, ?_, ?_, htoken,
        htokens⟩
      · rw [hstart, Nat.add_assoc]
      · rw [Text.drop_length_take_add, hscan]
    rw [List.filterMap_cons]
    cases htoken : token? ⟨(c :: rest).take reading.width, reading⟩ with
    | none =>
      rw [htoken] at h
      exact hlater i h
    | some first =>
      rw [htoken] at h
      cases i with
      | zero =>
        obtain ⟨rfl, rfl⟩ := Prod.mk.inj (Option.some.inj h)
        exact ⟨0, _, _, rfl, scan_cons legacy c rest, htoken, rfl⟩
      | succ i => exact hlater i h

end Segment

/-- The tokens of a scan with the offsets where their lexemes start, to the end of input. -/
def starts (legacy : Bool) (text : Text) : List (Nat × Token) :=
  Segment.tokensAt (Segment.locate 0 (Segment.scan legacy text)) ++ [(text.length, .eof)]

theorem offsets_diagnose (source : Source) (options : Options) :
    (diagnose source options).offsets =
      (starts options.legacy source.text).map fun entry => (entry.1 : Int) := rfl

/-- From the start of a token on, a text has the tokens that are left. -/
theorem tokenize_drop {legacy : Bool} {text : Text} {i start : Nat} {token : Token}
    (h : (starts legacy text)[i]? = some (start, token)) :
    tokenize legacy (text.drop start) = (tokenize legacy text).drop i := by
  have hlength : (Segment.tokensAt (Segment.locate 0 (Segment.scan legacy text))).length =
      ((Segment.scan legacy text).filterMap Segment.token?).length := by
    rw [← Segment.snd_tokensAt 0, List.length_map]
  rw [tokenize, tokenize]
  by_cases hi : i < (Segment.tokensAt (Segment.locate 0 (Segment.scan legacy text))).length
  · rw [starts, List.getElem?_append_left hi] at h
    obtain ⟨n, segment, following, hstart, hscan, htoken, htokens⟩ := Segment.exists_scan_drop h
    rw [Nat.zero_add] at hstart
    rw [List.drop_append_of_le_length (by omega), htokens, hstart, hscan, List.filterMap_cons,
      htoken]
  · rw [starts, List.getElem?_append_right (by omega)] at h
    obtain ⟨hlast, heof⟩ := List.getElem?_eq_some_iff.mp h
    rw [List.length_singleton] at hlast
    have hi : i = ((Segment.scan legacy text).filterMap Segment.token?).length := by omega
    rw [List.getElem_singleton] at heof
    obtain ⟨rfl, rfl⟩ := Prod.mk.inj heof
    rw [hi, List.drop_left, List.drop_length, Segment.scan_nil]
    rfl

/-- Every offset that a diagnosis records is one where the scan could have been started: the tokens
of the text from there on are the tokens that are left. -/
theorem examine_restarts (source : Source) (options : Options) :
    ∃ diagnosis, examine source options false = .ok diagnosis ∧
      lex source.text options = .ok diagnosis.tokens ∧
      diagnosis.offsets.length = diagnosis.tokens.length ∧
      ∀ i : Fin diagnosis.tokens.length, ∃ start : Nat,
        diagnosis.offsets[i.val]? = some (start : Int) ∧
        lex (source.text.drop start) options = .ok (diagnosis.tokens.drop i) := by
  have htokens : (diagnose source options).tokens =
      (starts options.legacy source.text).map Prod.snd := rfl
  have hlength : (diagnose source options).tokens.length =
      (starts options.legacy source.text).length := by
    rw [htokens, List.length_map]
  refine ⟨diagnose source options, ?_, ?_, ?_, ?_⟩
  · rw [examine_eq]
    rfl
  · rw [lex_eq, tokens_diagnose]
  · rw [hlength, offsets_diagnose, List.length_map]
  · rintro ⟨i, hi⟩
    rw [hlength] at hi
    obtain ⟨start, token, hentry⟩ :
        ∃ start token, (starts options.legacy source.text)[i]? = some (start, token) :=
      ⟨_, _, List.getElem?_eq_getElem hi⟩
    refine ⟨start, ?_, ?_⟩
    · rw [offsets_diagnose, List.getElem?_map, hentry]
      rfl
    · rw [lex_eq, tokenize_drop hentry, ← tokens_diagnose]

end Lexical
