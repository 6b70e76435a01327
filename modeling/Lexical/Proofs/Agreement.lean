import Lexical.Proofs.Scan

/-! A diagnostic session scans as a plain one does. Its log changes neither the tokens nor the
cursor, no unknown token of a scan is one that it cannot note (`value_eq_of_mem_tokenize`), and what
it logs as starts depends neither on the name of the source nor on the limit of the collector. -/

namespace Lexical

/-- An unknown token of a scan holds one character. -/
theorem value_eq_of_mem_tokenize {legacy : Bool} {text : Text} {token : Token}
    (h : token ∈ tokenize legacy text) (hkind : token.kind = .unknown) :
    ∃ c, token.value = [c] := by
  rw [tokenize, List.mem_append, List.mem_singleton, List.mem_filterMap] at h
  obtain ⟨segment, hsegment, htoken⟩ | rfl := h
  · obtain ⟨rest, hfits, -⟩ := Segment.fits_of_mem_scan hsegment
    rw [Segment.token?, Reading.token?] at htoken
    split at htoken
    · rename_i kind hform
      cases htoken
      exact Reading.value_eq_of_unknown hfits (hform.trans (congrArg Form.token hkind))
    · cases htoken
  · cases hkind

namespace Diagnosis

/-- The starts of a diagnosis are read off the segments. -/
theorem offsets_make (source : Source) (legacy : Bool) (collector : Collector) :
    (make source legacy collector).offsets =
      ((Segment.tokensAt (Segment.locate 0 (Segment.scan legacy source.text))).map Prod.fst ++
        [source.text.length]).map Int.ofNat := by
  simp [make, ofOffsets]

theorem length_offsets_make (source : Source) (legacy : Bool) (collector : Collector) :
    (make source legacy collector).offsets.length = (tokenize legacy source.text).length := by
  have htokens := congrArg List.length (Segment.snd_tokensAt 0 (Segment.scan legacy source.text))
  rw [List.length_map] at htokens
  rw [offsets_make, tokenize]
  simp [htokens]

end Diagnosis

/-- Neither session fails, and both end with the same tokens at the same place. -/
theorem Session.tokenize_diagnostic_eq_plain (source : Source) (options : Options) :
    ∃ (tokens : List Token) (plainEnd diagnosticEnd : Session) (log : Log),
      (Session.plain source.text options).tokenize = (.ok tokens, plainEnd) ∧
      (Session.diagnostic source options).tokenize = (.ok tokens, diagnosticEnd) ∧
      diagnosticEnd.position = plainEnd.position ∧
      diagnosticEnd.current = plainEnd.current ∧
      diagnosticEnd.tokens = plainEnd.tokens ∧
      diagnosticEnd.log = some log ∧
      log.offsets.length = tokens.length ∧
      (∀ token ∈ tokens, token.kind = .unknown → ∃ c, token.value = [c]) ∧
      ∀ name limit, ∃ otherEnd otherLog,
        (Session.diagnostic ⟨name, source.text⟩ { options with errorLimit := limit }).tokenize =
          (.ok tokens, otherEnd) ∧
        otherEnd.log = some otherLog ∧
        otherLog.offsets = log.offsets := by
  have hplain := tokenize_eq (Session.plain source.text options)
  have hdiagnostic := tokenize_eq (Session.diagnostic source options)
  refine ⟨_, _, _, _, hplain, hdiagnostic, rfl, rfl, rfl, rfl, ?_, ?_, fun name limit => ?_⟩
  · exact Diagnosis.length_offsets_make source options.legacy { limit := options.errorLimit }
  · intro token htoken hkind
    exact value_eq_of_mem_tokenize htoken hkind
  · have hother := tokenize_eq
      (Session.diagnostic ⟨name, source.text⟩ { options with errorLimit := limit })
    refine ⟨_, _, hother, rfl, ?_⟩
    dsimp only
    rw [Diagnosis.offsets_make, Diagnosis.offsets_make]
    rfl

end Lexical
