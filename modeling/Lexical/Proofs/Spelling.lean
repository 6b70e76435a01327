import Lexical.Proofs.Choice
import Lexical.Proofs.Grammar
import Lexical.Proofs.Lines

/-! Spelling. A token that its kind admits is read back from its lexeme
(`Token.reads_of_wellFormed`), and a blank keeps it apart from the next one, so tokens that are
written with blanks between them are scanned back as they were (`examine_spell`). -/

namespace Lexical

open Reading (quote apostrophe tripleQuote commentEnd)

namespace Token

/-- The lexeme that a token is written as. -/
def spelling (token : Token) : Text :=
  match token.kind with
  | .string => [quote] ++ token.value ++ [quote]
  | .character => [apostrophe] ++ token.value ++ [apostrophe]
  | .multilineString => tripleQuote ++ token.value ++ tripleQuote
  | .newline => ['\n']
  | _ => token.value

/-- Writes tokens with a blank between them. -/
def spell (tokens : List Token) : Text := List.intercalate [' '] (tokens.map spelling)

theorem spell_cons_cons (token next : Token) (tokens : List Token) :
    spell (token :: next :: tokens) = token.spelling ++ ' ' :: spell (next :: tokens) := by
  simp [spell, List.intercalate_cons_cons]

theorem spell_singleton (token : Token) : spell [token] = token.spelling := by
  simp [spell, List.intercalate_singleton]

end Token

/-- A reading without a complaint that its lexeme could be read otherwise: it has its end, and its
closing quote is one. -/
def Reading.Sound (reading : Reading) : Prop :=
  reading.flaw ≠ some .unterminated ∧ reading.flaw ≠ some .tooLong

/-- The rule that fits the lexeme of a token takes it whole and gives the token. -/
def Token.Reads (token : Token) (legacy : Bool) : Prop :=
  ∃ reading, Reading.Fits legacy token.spelling reading ∧ reading.token? = some token ∧
    reading.width = token.spelling.length ∧ reading.Sound

namespace Body

theorem read_append_mark {mark body : Text} (hmark : mark ≠ [])
    (h : ¬ mark <:+: (body ++ mark).dropLast) : read mark (body ++ mark) = ⟨body, true⟩ := by
  rw [read, Text.before?_append_mark hmark h]

/-- The star of the mark that ends a comment makes no earlier mark with what stands before it. -/
theorem read_append_commentEnd {body : Text} (h : ¬ commentEnd <:+: body) :
    read commentEnd (body ++ commentEnd) = ⟨body, true⟩ := by
  have hmark : commentEnd ≠ [] := List.cons_ne_nil _ _
  refine read_append_mark hmark ?_
  rw [List.dropLast_append_of_ne_nil hmark]
  change ¬ commentEnd <:+: body ++ ['*']
  rw [List.infix_concat_iff, not_or]
  refine ⟨fun hend => ?_, h⟩
  have hlast : '/' = (body ++ ['*']).getLast _ := hend.getLast hmark
  rw [List.getLast_concat] at hlast
  exact absurd hlast (by decide)

end Body

namespace Reading

/-! ### The rule that fits a lexeme -/

section

variable {legacy : Bool}

theorem fits_word {c : Char} {rest : Text} (hc : Text.isLetter c = true)
    (hrest : ∀ d ∈ rest, isWordChar d = true) :
    Fits legacy (c :: rest) (ofToken (.ofWord (c :: rest))) := by
  have hall : ∀ d ∈ c :: rest, isWordChar d = true :=
    List.forall_mem_cons.mpr ⟨by simp [isWordChar, hc], hrest⟩
  have hfits : Fits legacy (c :: rest) (word (c :: rest)) := .word hc
  rwa [word, List.takeWhile_eq_self_iff.mpr hall] at hfits

theorem fits_numeral {c : Char} {rest : Text}
    (hc : Text.isDecimal c ∨ c = '.' ∧ ∃ d ∈ rest.head?, Text.isDecimal d)
    (hall : ∀ d ∈ c :: rest, Text.isDecimal d ∨ d = '.') :
    Fits legacy (c :: rest) (ofToken (.ofNumeral (c :: rest))) := by
  have hall : ∀ d ∈ c :: rest, isNumeralChar d = true := by
    intro d hd
    simpa [isNumeralChar] using hall d hd
  have hfits : Fits legacy (c :: rest) (numeral (c :: rest)) := by
    refine .numeral (hc.imp_right fun hdot => ⟨hdot.1, ?_⟩)
    obtain ⟨d, hd, hdecimal⟩ := hdot.2
    rw [Option.mem_def.mp hd]
    exact hdecimal
  rwa [numeral, List.takeWhile_eq_self_iff.mpr hall] at hfits

theorem fits_operator {value : Text} (h : value ∈ Token.operators) :
    Fits legacy value (ofToken ⟨.operator, value⟩) := by
  have hread : ∀ value ∈ Token.operators, operator value = ofToken ⟨.operator, value⟩ := by decide
  have hstart : ∀ value ∈ Token.operators, value.head?.any fun c =>
      c ∈ marks ∧ c ≠ quote ∧ c ≠ apostrophe ∧ c ∉ Token.separators ∧ c ∉ Token.specials ∧
        ¬ (c = '/' ∧ (value.tail.head? = some '/' ∨ value.tail.head? = some '*')) := by decide
  have hvalue := hstart value h
  have hne : value ≠ [] := by
    rintro rfl
    cases hvalue
  obtain ⟨c, rest, rfl⟩ := List.exists_cons_of_ne_nil hne
  obtain ⟨hmark, hquote, hapostrophe, hseparator, hspecial, hcomment⟩ := of_decide_eq_true hvalue
  obtain ⟨hspace, hletter, hdecimal, hdot⟩ := of_mem_marks hmark
  rw [← hread _ h]
  exact .operator (by simp [Text.isBlank, hspace]) (Text.ne_newline hspace) (by simp [hletter])
    (by simp [hdecimal, hdot]) hquote hapostrophe hcomment hseparator hspecial

theorem fits_unknown {c : Char} (hspace : ¬ Text.isSpace c) (hletter : ¬ Text.isLetter c)
    (hdecimal : ¬ Text.isDecimal c) (hquote : c ≠ quote) (hapostrophe : c ≠ apostrophe)
    (hseparator : c ∉ Token.separators) (hspecial : c ∉ Token.specials)
    (hoperator : [c] ∉ Token.operators) : Fits legacy [c] (ofToken ⟨.unknown, [c]⟩) := by
  have hread : operator [c] = ofToken ⟨.unknown, [c]⟩ := by
    rw [operator, List.head?_nil]
    exact congrArg (fun kind => ofToken ⟨kind, [c]⟩) (if_neg hoperator)
  have hblank : ¬ Text.isBlank c := fun hblank => hspace (Text.isSpace_of_isBlank hblank)
  rw [← hread]
  exact .operator hblank (Text.ne_newline (by simpa using hspace)) hletter (by simp [hdecimal])
    hquote hapostrophe (by simp) hseparator hspecial

end

/-! ### Bodies between their marks -/

theorem string_spelling {body : Text} (h : quote ∉ body) :
    string ([quote] ++ body ++ [quote]) =
      ⟨.token .string, body, ([quote] ++ body ++ [quote]).length, none⟩ := by
  have hfirst : ¬ [quote] <:+: (body ++ [quote]).dropLast := by
    rwa [List.dropLast_concat, List.singleton_infix_iff]
  have hread := Body.read_append_mark (List.cons_ne_nil quote []) hfirst
  simp [string, hread, Body.flaw]

/-- A body that holds no three quotes holds none in a row with the first two of the mark, unless it
ends in a quote. -/
theorem multilineString_spelling {body : Text} (h : ¬ tripleQuote <:+: body)
    (hlast : body.getLast? ≠ some quote) :
    multilineString (tripleQuote ++ (body ++ tripleQuote)) =
      ⟨.token .multilineString, body, (tripleQuote ++ body ++ tripleQuote).length, none⟩ := by
  have hmark : tripleQuote ≠ [] := List.cons_ne_nil _ _
  have hfirst : ¬ tripleQuote <:+: (body ++ tripleQuote).dropLast := by
    rw [List.dropLast_append_of_ne_nil hmark, List.infix_append_iff, not_or, not_or]
    refine ⟨h, by decide, ?_⟩
    rintro ⟨inner, outer, hquotes, hinner, houter⟩
    cases inner using List.reverseRecOn with
    | nil =>
      have hlength := houter.length_le
      rw [← List.nil_append outer, ← hquotes] at hlength
      exact absurd hlength (by decide)
    | append_singleton inner c _ =>
      have hc : c ∈ tripleQuote := by simp [hquotes]
      obtain ⟨before, hbody⟩ := hinner
      have hc : c = quote := by simpa [tripleQuote] using hc
      apply hlast
      rw [← hbody, hc]
      simp
  have hread := Body.read_append_mark hmark hfirst
  have hdrop : (tripleQuote ++ (body ++ tripleQuote)).drop 3 = body ++ tripleQuote := rfl
  rw [multilineString, hdrop, hread, List.length_append, List.length_append]
  rfl

theorem documentation_spelling {body : Text} (h : ¬ commentEnd <:+: body) :
    documentation (['/', '*', '*'] ++ (body ++ commentEnd)) =
      ofToken ⟨.documentation, ['/', '*', '*'] ++ body ++ commentEnd⟩ := by
  have hdrop : (['/', '*', '*'] ++ (body ++ commentEnd)).drop 3 = body ++ commentEnd := rfl
  rw [documentation, hdrop, Body.read_append_commentEnd h]
  rfl

end Reading

/-! ### A token and its lexeme -/

namespace Token

variable {legacy : Bool}

theorem reads_of_fits {token : Token}
    (h : Reading.Fits legacy token.spelling
      ⟨.token token.kind, token.value, token.spelling.length, none⟩) : token.Reads legacy :=
  ⟨_, h, rfl, rfl, (fun h => by cases h), (fun h => by cases h)⟩

theorem reads_ofToken {token : Token} (hspelling : token.spelling = token.value)
    (h : Reading.Fits legacy token.value (.ofToken token)) : token.Reads legacy := by
  apply reads_of_fits
  rwa [hspelling]

theorem reads_keyword {word : Text} (h : word ∈ keywords) : Reads ⟨.keyword, word⟩ legacy := by
  have hword : ∀ word ∈ keywords,
      word.head?.any Text.isLetter ∧ word.tail.all Reading.isWordChar := by decide +kernel
  obtain ⟨hletter, hrest⟩ := hword word h
  have hne : word ≠ [] := by
    rintro rfl
    cases hletter
  obtain ⟨c, rest, rfl⟩ := List.exists_cons_of_ne_nil hne
  have hfits : Reading.Fits legacy (c :: rest) (.ofToken (.ofWord (c :: rest))) :=
    Reading.fits_word hletter (List.all_eq_true.mp hrest)
  rw [ofWord, if_pos h] at hfits
  exact reads_ofToken rfl hfits

theorem reads_identifier {word : Text} (h : Kind.identifier.Admits word) :
    Reads ⟨.identifier, word⟩ legacy := by
  obtain ⟨⟨c, rest, rfl, hc, hrest⟩, hkeyword⟩ := h
  have hfits : Reading.Fits legacy (c :: rest) (.ofToken (.ofWord (c :: rest))) :=
    Reading.fits_word hc fun d hd => by simpa [Reading.isWordChar] using hrest d hd
  rw [ofWord, if_neg hkeyword] at hfits
  exact reads_ofToken rfl hfits

theorem reads_number {numeral : Text} (h : Kind.number.Admits numeral) :
    Reads ⟨.number, numeral⟩ legacy := by
  obtain ⟨hne, hall⟩ := h
  have hdot : '.' ∉ numeral := fun hmem => absurd (hall '.' hmem) (by decide)
  obtain ⟨c, rest, rfl⟩ := List.exists_cons_of_ne_nil hne
  have hfits : Reading.Fits legacy (c :: rest) (.ofToken (.ofNumeral (c :: rest))) :=
    Reading.fits_numeral (.inl (hall c List.mem_cons_self)) fun d hd => .inl (hall d hd)
  rw [ofNumeral, if_neg hdot] at hfits
  exact reads_ofToken rfl hfits

theorem reads_float {numeral : Text} (h : Kind.float.Admits numeral) :
    Reads ⟨.float, numeral⟩ legacy := by
  obtain ⟨⟨c, rest, rfl, hc⟩, hall, hdot⟩ := h
  have hfits : Reading.Fits legacy (c :: rest) (.ofToken (.ofNumeral (c :: rest))) :=
    Reading.fits_numeral hc hall
  rw [ofNumeral, if_pos hdot] at hfits
  exact reads_ofToken rfl hfits

theorem reads_string {body : Text} (h : quote ∉ body) : Reads ⟨.string, body⟩ legacy := by
  have htriple : ¬ tripleQuote <+: [quote] ++ body ++ [quote] := by
    cases body with
    | nil => decide
    | cons c body =>
      intro hstart
      obtain ⟨-, hstart⟩ := List.cons_prefix_cons.mp hstart
      exact h ((List.cons_prefix_cons.mp hstart).1 ▸ List.mem_cons_self)
  have hfits : Reading.Fits legacy ([quote] ++ body ++ [quote])
      (.string ([quote] ++ body ++ [quote])) :=
    .string (.inr htriple)
  rw [Reading.string_spelling h] at hfits
  exact reads_of_fits hfits

theorem reads_character {value : Text} (h : Kind.character.Admits value) :
    Reads ⟨.character, value⟩ legacy := by
  obtain ⟨hlength, hquote⟩ := h
  cases value with
  | nil => exact ⟨_, .character, rfl, rfl, (fun h => by cases h), (fun h => by cases h)⟩
  | cons c rest =>
    obtain rfl : rest = [] := List.eq_nil_of_length_eq_zero (by simpa using hlength)
    have hc : c ≠ apostrophe := fun h => hquote (h ▸ List.mem_cons_self)
    have hfits : Reading.Fits legacy [apostrophe, c, apostrophe]
        (.character [apostrophe, c, apostrophe]) := .character
    rw [Reading.character_cons hc] at hfits
    exact reads_of_fits hfits

theorem reads_multilineString {body : Text} (h : Kind.multilineString.Admits body) :
    Reads ⟨.multilineString, body⟩ false := by
  have hfits : Reading.Fits false (tripleQuote ++ (body ++ tripleQuote))
      (.multilineString (tripleQuote ++ (body ++ tripleQuote))) := .multilineString rfl
  rw [Reading.multilineString_spelling h.1 h.2, ← List.append_assoc] at hfits
  exact reads_of_fits hfits

theorem reads_documentation {value : Text} (h : Kind.documentation.Admits value) :
    Reads ⟨.documentation, value⟩ legacy := by
  obtain ⟨body, rfl, hbody, hhead⟩ := h
  have hfits : Reading.Fits legacy (['/', '*', '*'] ++ (body ++ commentEnd))
      (.documentation (['/', '*', '*'] ++ (body ++ commentEnd))) := by
    refine .documentation ?_
    cases body with
    | nil => decide
    | cons c body => exact hhead
  rw [Reading.documentation_spelling hbody, ← List.append_assoc] at hfits
  exact reads_ofToken rfl hfits

/-- What a kind admits is read back from its lexeme. Under the legacy order no multi-line string is.
-/
theorem reads_of_wellFormed {token : Token} (h : token.WellFormed)
    (horder : legacy = true → token.kind ≠ .multilineString) : token.Reads legacy := by
  obtain ⟨kind, value⟩ := token
  cases kind with
  | keyword => exact reads_keyword h
  | identifier => exact reads_identifier h
  | number => exact reads_number h
  | float => exact reads_float h
  | operator => exact reads_ofToken rfl (Reading.fits_operator h)
  | separator =>
    obtain ⟨c, hc, hvalue⟩ := h
    cases hvalue
    exact reads_ofToken rfl (.separator hc)
  | special =>
    obtain ⟨c, hc, hvalue⟩ := h
    cases hvalue
    exact reads_ofToken rfl (.special hc)
  | string => exact reads_string h
  | character => exact reads_character h
  | multilineString =>
    cases legacy with
    | false => exact reads_multilineString h
    | true => exact absurd rfl (horder rfl)
  | documentation => exact reads_documentation h
  | newline =>
    cases h
    exact ⟨.newline, .newline, rfl, rfl, (fun h => by cases h), (fun h => by cases h)⟩
  | unknown =>
    obtain
      ⟨c, hvalue, hspace, hletter, hdecimal, hquote, hapostrophe, hseparator, hspecial, hop⟩ := h
    cases hvalue
    exact reads_ofToken rfl
      (Reading.fits_unknown hspace hletter hdecimal hquote hapostrophe hseparator hspecial hop)
  | whitespace | comment | boolean | template | eof => exact h.elim

end Token

/-! ### Scanning what is spelled -/

namespace Segment

variable {legacy : Bool}

/-- The lexeme of a token does not start with a blank. -/
theorem not_isBlank_of_fits {c : Char} {rest : Text} {reading : Reading}
    (h : Reading.Fits legacy (c :: rest) reading) (htoken : reading.token?.isSome) :
    Text.isBlank c = false := by
  rw [← Bool.not_eq_true]
  intro hblank
  obtain ⟨d, tail, htext, rfl⟩ := h.eq_next
  obtain ⟨rfl, rfl⟩ := List.cons.inj htext
  have hblanks : Reading.next legacy c rest = Reading.blanks (c :: rest) := if_pos hblank
  rw [hblanks] at htoken
  cases htoken

/-- A blank before a lexeme is a segment of its own. -/
theorem scan_blank {text : Text} {reading : Reading} (h : Reading.Fits legacy text reading)
    (htoken : reading.token?.isSome) :
    scan legacy (' ' :: text) = ⟨[' '], ⟨.blank, [' '], 1, none⟩⟩ :: scan legacy text := by
  obtain ⟨c, rest, rfl, -⟩ := h.eq_next
  have hrun : (' ' :: c :: rest).takeWhile Text.isBlank = [' '] :=
    Text.takeWhile_append_cons (not_isBlank_of_fits h htoken) [' '] rest
  have hblanks : Reading.Fits legacy (' ' :: c :: rest) (.blanks (' ' :: c :: rest)) := .blanks rfl
  rw [Reading.blanks, hrun] at hblanks
  rw [scan_of_fits hblanks]
  rfl

/-- A token that is spelled is the first segment, whether a blank follows or nothing. -/
theorem scan_spell_cons {token : Token} (h : token.Reads legacy) (tokens : List Token) :
    ∃ reading, Reading.Fits legacy (Token.spell (token :: tokens)) reading ∧
      reading.token? = some token ∧ reading.Sound ∧
      scan legacy (Token.spell (token :: tokens)) =
        ⟨token.spelling, reading⟩ ::
          scan legacy (if tokens = [] then [] else ' ' :: Token.spell tokens) := by
  obtain ⟨reading, hfits, htoken, hwidth, hsound⟩ := h
  have htake : token.spelling.take reading.width = token.spelling :=
    List.take_of_length_le (Nat.le_of_eq hwidth.symm)
  have hdrop : token.spelling.drop reading.width = [] :=
    List.drop_of_length_le (Nat.le_of_eq hwidth.symm)
  refine ⟨reading, ?_⟩
  cases tokens with
  | nil =>
    rw [Token.spell_singleton, scan_of_fits hfits, htake, hdrop]
    exact ⟨hfits, htoken, hsound, rfl⟩
  | cons next tokens =>
    have hform := Reading.form_ne_of_isSome_token? (Option.isSome_of_eq_some htoken)
    have hspace : Text.isSpace ' ' = true := rfl
    have happend := hfits.append hsound.1 hspace (.inr hform) (Token.spell (next :: tokens))
    rw [Token.spell_cons_cons, scan_append_of_fits hfits hsound.1 hspace (.inr hform), htake, hdrop]
    exact ⟨happend, htoken, hsound, rfl⟩

/-- Tokens that are spelled are scanned back, from sound readings. -/
theorem scan_spell {tokens : List Token} (h : ∀ token ∈ tokens, token.Reads legacy) :
    (scan legacy (Token.spell tokens)).filterMap token? = tokens ∧
      ∀ segment ∈ scan legacy (Token.spell tokens), segment.reading.Sound := by
  induction tokens with
  | nil =>
    have hspell : Token.spell [] = [] := rfl
    rw [hspell, scan_nil]
    exact ⟨rfl, fun _ hsegment => absurd hsegment List.not_mem_nil⟩
  | cons token tokens ih =>
    obtain ⟨hreads, hrest⟩ := List.forall_mem_cons.mp h
    obtain ⟨htokens, hsounds⟩ := ih hrest
    obtain ⟨reading, -, htoken, hsound, hscan⟩ := scan_spell_cons hreads tokens
    -- The blank that comes before the other tokens, if there are any, is sound and gives no token.
    have hfollowing :
        (scan legacy (if tokens = [] then [] else ' ' :: Token.spell tokens)).filterMap token? =
          tokens ∧
        ∀ segment ∈ scan legacy (if tokens = [] then [] else ' ' :: Token.spell tokens),
          segment.reading.Sound := by
      cases tokens with
      | nil => exact ih hrest
      | cons next tokens =>
        obtain ⟨_, hfits, hnext, -, -⟩ :=
          scan_spell_cons (hrest next List.mem_cons_self) tokens
        have hsome : Option.isSome _ := Option.isSome_of_eq_some hnext
        rw [if_neg (List.cons_ne_nil next tokens), scan_blank hfits hsome]
        refine ⟨htokens, List.forall_mem_cons.mpr ⟨?_, hsounds⟩⟩
        exact ⟨(fun h => by cases h), (fun h => by cases h)⟩
    rw [hscan]
    refine ⟨?_, List.forall_mem_cons.mpr ⟨hsound, hfollowing.2⟩⟩
    have hfirst : token? ⟨token.spelling, reading⟩ = some token := htoken
    rw [List.filterMap_cons_some hfirst, hfollowing.1]

end Segment

/-! ### What a diagnosis says of it -/

namespace Segment

variable {legacy : Bool} {text : Text} {segment : Segment}

/-- The message of a character literal that is too long. -/
def tooLong : Text := "character literal holds more than one character"

theorem complaint?_of_sound (hscan : segment ∈ scan legacy text) (hsound : segment.reading.Sound)
    {message : Text} (h : segment.complaint? = some message) : message ≠ tooLong := by
  rintro rfl
  have hmem := (warning_mem_anomalies_iff hscan tooLong).mpr h
  rw [Reading.anomalies, List.mem_append, Option.mem_toList, Option.mem_toList] at hmem
  obtain hflaw | htoken := hmem
  · obtain ⟨flaw, hflaw, hwarning⟩ := Option.map_eq_some_iff.mp hflaw
    cases flaw with
    | unterminated => cases hwarning
    | empty => exact absurd (Anomaly.warning.inj hwarning) (by decide)
    | tooLong => exact hsound.2 hflaw
  · obtain ⟨token, -, hwarning⟩ := Option.bind_eq_some_iff.mp htoken
    unfold Anomaly.ofToken? at hwarning
    split at hwarning
    · cases hwarning
    · split at hwarning
      · have hstart : some 'm' = some 'c' :=
          congrArg List.head? (Anomaly.warning.inj (Option.some.inj hwarning))
        exact absurd hstart (by decide)
      · cases hwarning
    · cases hwarning

end Segment

/-- Well-formed tokens, each written as its lexeme and with a blank between them, are scanned back
as they were. A diagnosis finds no literal or comment without its end and no character literal that
is too long. Under the legacy order there must be no multi-line string. -/
theorem examine_spell (tokens : List Token) (options : Options)
    (hformed : ∀ token ∈ tokens, token.WellFormed)
    (horder : options.legacy = true → ∀ token ∈ tokens, token.kind ≠ .multilineString) :
    lex (Token.spell tokens) options = .ok (tokens ++ [.eof]) ∧
      ∀ name, ∃ diagnosis, examine ⟨name, Token.spell tokens⟩ options false = .ok diagnosis ∧
        diagnosis.tokens = tokens ++ [.eof] ∧
        (∀ error ∈ diagnosis.collector.errors, ∃ c, error.cause = .unknownCharacter c) ∧
        ∀ warning ∈ diagnosis.collector.warnings,
          warning.message ≠ "character literal holds more than one character" := by
  have hreads : ∀ token ∈ tokens, token.Reads options.legacy := fun token htoken =>
    Token.reads_of_wellFormed (hformed token htoken) fun hlegacy => horder hlegacy token htoken
  obtain ⟨htokens, hsound⟩ := Segment.scan_spell hreads
  have htokenize : tokenize options.legacy (Token.spell tokens) = tokens ++ [.eof] := by
    rw [tokenize, htokens]
  refine ⟨?_, fun name => ⟨diagnose ⟨name, Token.spell tokens⟩ options, ?_, ?_, ?_, ?_⟩⟩
  · rw [lex_eq, htokenize]
  · rw [examine_eq]
    rfl
  · rw [tokens_diagnose, htokenize]
  · intro error herror
    have hclosed : Closed options.legacy (Token.spell tokens) := fun segment hscan =>
      (hsound segment hscan).1
    exact hclosed.exists_unknownCharacter herror
  · intro warning hwarning
    rw [collector_diagnose] at hwarning
    obtain ⟨entry, hentry, hmap⟩ := List.mem_filterMap.mp hwarning
    obtain ⟨message, hcomplaint, rfl⟩ := Option.map_eq_some_iff.mp hmap
    have hscan := Segment.mem_of_mem_locate hentry
    exact Segment.complaint?_of_sound hscan (hsound _ hscan) hcomplaint

/-- Neighbours that would be one lexeme without the blank: strings, an exclamation mark and an
equals sign, a dot and a numeral, a slash and a star. -/
theorem examine_spell_neighbours :
    let multiline : Token := ⟨.multilineString, ['\x22', 'a']⟩
    let tokens : List Token :=
      [⟨.string, []⟩, ⟨.string, "a"⟩, ⟨.unknown, "!"⟩, ⟨.operator, "="⟩, ⟨.unknown, "."⟩,
        ⟨.float, ".5"⟩, ⟨.number, "5"⟩, ⟨.operator, "/"⟩, ⟨.operator, "*"⟩,
        ⟨.documentation, "/***/"⟩, .newline, ⟨.character, []⟩, ⟨.character, "a"⟩,
        ⟨.identifier, "iff"⟩, ⟨.keyword, "if"⟩, ⟨.separator, "("⟩, ⟨.special, "@"⟩]
    (∀ token ∈ multiline :: tokens, token.WellFormed) ∧
      (∀ token ∈ tokens, token.kind ≠ .multilineString) ∧
      lex (Token.spell (multiline :: tokens)) {} = .ok (multiline :: tokens ++ [.eof]) ∧
      lex (Token.spell tokens) { legacy := true } = .ok (tokens ++ [.eof]) ∧
      ∃ diagnosis,
        examine ⟨"<input>", Token.spell tokens⟩ { legacy := true } false = .ok diagnosis ∧
        diagnosis.tokens = tokens ++ [.eof] ∧
        (∀ error ∈ diagnosis.collector.errors, ∃ c, error.cause = .unknownCharacter c) ∧
        ∀ warning ∈ diagnosis.collector.warnings,
          warning.message ≠ "character literal holds more than one character" := by
  intro multiline tokens
  have hformed : ∀ token ∈ multiline :: tokens, token.WellFormed := by decide +kernel
  have hkinds : ∀ token ∈ tokens, token.kind ≠ .multilineString := by decide
  have hdefault := examine_spell (multiline :: tokens) {} hformed fun hlegacy =>
    absurd hlegacy Bool.false_ne_true
  have hlegacy := examine_spell tokens { legacy := true } (List.forall_mem_cons.mp hformed).2
    fun _ => hkinds
  exact ⟨hformed, hkinds, hdefault.1, hlegacy.1, hlegacy.2 "<input>"⟩

end Lexical
