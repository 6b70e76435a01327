import Lexical.Proofs.Agreement
import Lexical.Proofs.Restart
import Lexical.Proofs.Segmentation
import Mathlib.Data.List.Infix

/-! The grammar of tokens. `Kind.Admits` says for each kind which values its tokens hold, in terms
of the classes and tables alone. The rule that fits a text gives a token that its kind admits
(`Fits.wellFormed`); the two kinds whose values show that a closing mark is missing have a weaker
form for it (`Kind.AdmitsOpen`), which a scan gives only to its last token (`examine_wellFormed`).
-/

namespace Lexical

open Reading (quote apostrophe tripleQuote commentEnd)

namespace Kind

/-- The kinds that are set aside: no scan gives them. -/
def setAside : List Kind := [.whitespace, .comment, .boolean, .template]

/-- The values that the tokens of a kind hold. -/
def Admits (kind : Kind) (value : Text) : Prop :=
  match kind with
  | .keyword => value ∈ Token.keywords
  | .identifier =>
    (∃ c rest, value = c :: rest ∧ Text.isLetter c ∧
      ∀ d ∈ rest, Text.isLetter d ∨ Text.isDecimal d) ∧
      value ∉ Token.keywords
  | .number => value ≠ [] ∧ ∀ c ∈ value, Text.isDecimal c
  | .float =>
    (∃ c rest, value = c :: rest ∧
      (Text.isDecimal c ∨ c = '.' ∧ ∃ d ∈ rest.head?, Text.isDecimal d)) ∧
      (∀ c ∈ value, Text.isDecimal c ∨ c = '.') ∧ '.' ∈ value
  | .operator => value ∈ Token.operators
  | .separator => ∃ c ∈ Token.separators, value = [c]
  | .special => ∃ c ∈ Token.specials, value = [c]
  | .string => quote ∉ value
  | .character => value.length ≤ 1 ∧ apostrophe ∉ value
  | .multilineString => ¬ tripleQuote <:+: value ∧ value.getLast? ≠ some quote
  | .documentation =>
    ∃ body, value = ['/', '*', '*'] ++ body ++ commentEnd ∧ ¬ commentEnd <:+: body ∧
      body.head? ≠ some '/'
  | .newline => value = Token.newlineValue
  | .unknown =>
    ∃ c, value = [c] ∧ ¬ Text.isSpace c ∧ ¬ Text.isLetter c ∧ ¬ Text.isDecimal c ∧ c ≠ quote ∧
      c ≠ apostrophe ∧ c ∉ Token.separators ∧ c ∉ Token.specials ∧ [c] ∉ Token.operators
  | .whitespace | .comment | .boolean | .template | .eof => False

/-! ### What a kind admits is computed -/

theorem admits_identifier_iff {value : Text} :
    Admits .identifier value ↔ value.head?.any Text.isLetter ∧ value.tail.all Reading.isWordChar ∧
      value ∉ Token.keywords := by
  cases value with
  | nil => simp [Admits]
  | cons c rest => simp [Admits, Reading.isWordChar, and_assoc]

theorem admits_number_iff {value : Text} :
    Admits .number value ↔ value ≠ [] ∧ value.all Text.isDecimal := by
  simp [Admits]

theorem admits_float_iff {value : Text} :
    Admits .float value ↔
      (value.head?.any Text.isDecimal ∨
        value.head? = some '.' ∧ value.tail.head?.any Text.isDecimal) ∧
        value.all Reading.isNumeralChar ∧ '.' ∈ value := by
  cases value with
  | nil => simp [Admits]
  | cons c rest => simp [Admits, Reading.isNumeralChar, Option.any_eq_true]

theorem admits_documentation_iff {value : Text} :
    Admits .documentation value ↔
      value = ['/', '*', '*'] ++ (value.drop 3).dropLast.dropLast ++ commentEnd ∧
        ¬ commentEnd <:+: (value.drop 3).dropLast.dropLast ∧
        (value.drop 3).dropLast.dropLast.head? ≠ some '/' := by
  refine ⟨?_, fun h => ⟨_, h⟩⟩
  rintro ⟨body, rfl, h⟩
  have hdrop : (['/', '*', '*'] ++ body ++ commentEnd).drop 3 = body ++ ['*'] ++ ['/'] := by
    simp [commentEnd]
  rw [hdrop, List.dropLast_concat, List.dropLast_concat]
  exact ⟨rfl, h⟩

theorem admits_unknown_iff {value : Text} :
    Admits .unknown value ↔ value.tail = [] ∧ value.head?.any fun c =>
      ¬ Text.isSpace c ∧ ¬ Text.isLetter c ∧ ¬ Text.isDecimal c ∧ c ≠ quote ∧ c ≠ apostrophe ∧
        c ∉ Token.separators ∧ c ∉ Token.specials ∧ [c] ∉ Token.operators := by
  cases value with
  | nil => simp [Admits]
  | cons c rest => simp [Admits]

instance (kind : Kind) (value : Text) : Decidable (kind.Admits value) :=
  match kind with
  | .keyword => inferInstanceAs (Decidable (value ∈ Token.keywords))
  | .identifier => decidable_of_iff' _ admits_identifier_iff
  | .number => decidable_of_iff' _ admits_number_iff
  | .float => decidable_of_iff' _ admits_float_iff
  | .operator => inferInstanceAs (Decidable (value ∈ Token.operators))
  | .separator => List.decidableBEx (value = [·]) Token.separators
  | .special => List.decidableBEx (value = [·]) Token.specials
  | .string => inferInstanceAs (Decidable (quote ∉ value))
  | .character => inferInstanceAs (Decidable (value.length ≤ 1 ∧ apostrophe ∉ value))
  | .multilineString =>
    inferInstanceAs (Decidable (¬ tripleQuote <:+: value ∧ value.getLast? ≠ some quote))
  | .documentation => decidable_of_iff' _ admits_documentation_iff
  | .newline => inferInstanceAs (Decidable (value = Token.newlineValue))
  | .unknown => decidable_of_iff' _ admits_unknown_iff
  | .whitespace | .comment | .boolean | .template | .eof => inferInstanceAs (Decidable False)

/-! ### Missing closing marks -/

/-- The values without a closing mark, of the kinds whose other values show that it is there. -/
def AdmitsOpen (kind : Kind) (value : Text) : Prop :=
  match kind with
  | .multilineString => ¬ tripleQuote <:+: value
  | .documentation =>
    ∃ body, value = ['/', '*', '*'] ++ body ∧ ¬ commentEnd <:+: body ∧ body.head? ≠ some '/'
  | _ => False

/-- What stands before the value in the lexeme of such a token. -/
def opening : Kind → Text
  | .multilineString => tripleQuote
  | _ => []

theorem not_mem_setAside {kind : Kind} {value : Text}
    (h : kind.Admits value ∨ kind.AdmitsOpen value) : kind ≠ .eof ∧ kind ∉ setAside := by
  cases kind with
  | whitespace | comment | boolean | template | eof => exact (h.elim id id).elim
  | _ => decide

end Kind

namespace Token

/-- The value of the token is one that its kind admits. -/
def WellFormed (token : Token) : Prop := token.kind.Admits token.value

instance (token : Token) : Decidable token.WellFormed :=
  inferInstanceAs (Decidable (token.kind.Admits token.value))

/-- The closing mark of the token is missing. -/
def Unfinished (token : Token) : Prop := token.kind.AdmitsOpen token.value

theorem wellFormed_ofWord {c : Char} (hc : Text.isLetter c = true) (rest : Text) :
    (ofWord ((c :: rest).takeWhile Reading.isWordChar)).WellFormed := by
  have hrun : (c :: rest).takeWhile Reading.isWordChar =
      c :: rest.takeWhile Reading.isWordChar := by
    simp [Reading.isWordChar, hc]
  rw [hrun, ofWord]
  split
  · next hkeyword => exact hkeyword
  · next hkeyword =>
    refine ⟨⟨c, _, rfl, hc, fun d hd => ?_⟩, hkeyword⟩
    have hword : Reading.isWordChar d = true := List.mem_takeWhile_imp hd
    simpa [Reading.isWordChar] using hword

theorem wellFormed_ofNumeral {c : Char} {rest : Text}
    (hc : Text.isDecimal c = true ∨ c = '.' ∧ rest.head?.any Text.isDecimal) :
    (ofNumeral ((c :: rest).takeWhile Reading.isNumeralChar)).WellFormed := by
  have hrun : (c :: rest).takeWhile Reading.isNumeralChar =
      c :: rest.takeWhile Reading.isNumeralChar := by
    obtain hc | ⟨rfl, -⟩ := hc
    · simp [Reading.isNumeralChar, hc]
    · simp [Reading.isNumeralChar]
  have hall : ∀ d ∈ (c :: rest).takeWhile Reading.isNumeralChar, Text.isDecimal d ∨ d = '.' :=
    fun d hd => by simpa [Reading.isNumeralChar] using List.mem_takeWhile_imp hd
  rw [ofNumeral]
  split
  · next hdot =>
    refine ⟨⟨c, _, hrun, hc.imp_right fun hc => ⟨hc.1, ?_⟩⟩, hall, hdot⟩
    -- The digit after the dot is taken with it.
    cases rest with
    | nil => exact absurd hc.2 Bool.false_ne_true
    | cons d rest =>
      have hd : Text.isDecimal d = true := hc.2
      exact ⟨d, by simp [Reading.isNumeralChar, hd], hd⟩
  · next hdot =>
    refine ⟨by simp [hrun], fun d hd => (hall d hd).resolve_right ?_⟩
    rintro rfl
    exact hdot hd

end Token

namespace Body

theorem before?_eq_some {mark text : Text} (h : (read mark text).closed = true) :
    Text.before? mark text = some (read mark text).text := by
  rw [read] at h ⊢
  split at h
  · next hbefore => rw [hbefore]
  · cases h

/-- A body starts as the text does that it is read from. -/
theorem head?_read {mark text : Text} {c : Char} (h : (read mark text).text.head? = some c) :
    text.head? = some c := by
  obtain ⟨rest, htext, -⟩ := append_read mark text
  obtain ⟨tail, htail⟩ := List.head?_eq_some_iff.mp h
  rw [htext, htail]
  rfl

/-- Nothing follows a body that is not closed. -/
theorem read_of_not_closed {mark text : Text} (h : (read mark text).closed = false) :
    (read mark text).text = text := by
  obtain ⟨rest, htext, hrest⟩ := append_read mark text
  rw [hrest h, closing, h] at htext
  simpa using htext.symm

end Body

namespace Reading

theorem wellFormed_character (rest : Text) :
    (⟨.character, (character (apostrophe :: rest)).value⟩ : Token).WellFormed := by
  cases rest with
  | nil => exact ⟨Nat.zero_le 1, List.not_mem_nil⟩
  | cons c rest =>
    by_cases hc : c = apostrophe
    · subst hc
      exact ⟨Nat.zero_le 1, List.not_mem_nil⟩
    · rw [character_cons hc]
      exact ⟨Nat.le_refl 1, fun h => hc (List.mem_singleton.mp h).symm⟩

theorem wellFormed_multilineString {rest : Text} (h : (Body.read tripleQuote rest).closed = true) :
    (⟨.multilineString, (Body.read tripleQuote rest).text⟩ : Token).WellFormed := by
  have hmark : tripleQuote ≠ [] := List.cons_ne_nil _ _
  refine ⟨Body.not_infix_read hmark rest, fun hlast => ?_⟩
  -- With a quote at its end, the body would hold the first two of three quotes before the mark.
  obtain ⟨body, hbody : (Body.read tripleQuote rest).text = body ++ [quote]⟩ :=
    List.getLast?_eq_some_iff.mp hlast
  have hfirst := Text.not_infix_dropLast_of_before? hmark (Body.before?_eq_some h)
  rw [hbody] at hfirst
  refine hfirst ⟨body, [], ?_⟩
  rw [List.dropLast_append_of_ne_nil hmark]
  simp [tripleQuote]

theorem value_documentation (rest : Text) :
    (documentation ('/' :: '*' :: '*' :: rest)).value =
      ['/', '*', '*'] ++ (Body.read commentEnd rest).text ++
        (Body.read commentEnd rest).closing commentEnd := rfl

theorem wellFormed_documentation {rest : Text} (hrest : rest.head? ≠ some '/')
    (h : (Body.read commentEnd rest).closed = true) :
    (⟨.documentation, (documentation ('/' :: '*' :: '*' :: rest)).value⟩ : Token).WellFormed := by
  refine ⟨(Body.read commentEnd rest).text, ?_, Body.not_infix_read (List.cons_ne_nil _ _) rest,
    fun hhead => hrest (Body.head?_read hhead)⟩
  rw [value_documentation, Body.closing, if_pos h]

theorem unfinished_documentation {rest : Text} (hrest : rest.head? ≠ some '/')
    (h : (Body.read commentEnd rest).closed = false) :
    (⟨.documentation, (documentation ('/' :: '*' :: '*' :: rest)).value⟩ : Token).Unfinished ∧
      '/' :: '*' :: '*' :: rest = (documentation ('/' :: '*' :: '*' :: rest)).value := by
  have hvalue : (documentation ('/' :: '*' :: '*' :: rest)).value =
      ['/', '*', '*'] ++ (Body.read commentEnd rest).text := by
    rw [value_documentation, Body.closing, h, if_neg Bool.false_ne_true, List.append_nil]
  have hfirst : (Body.read commentEnd rest).text.head? ≠ some '/' :=
    fun hhead => hrest (Body.head?_read hhead)
  refine ⟨⟨(Body.read commentEnd rest).text, hvalue,
    Body.not_infix_read (List.cons_ne_nil _ _) rest, hfirst⟩, ?_⟩
  rw [hvalue, Body.read_of_not_closed h]
  rfl

theorem wellFormed_operator {c : Char} {rest : Text} {token : Token} (hspace : ¬ Text.isSpace c)
    (hletter : ¬ Text.isLetter c) (hdecimal : ¬ Text.isDecimal c) (hquote : c ≠ quote)
    (hapostrophe : c ≠ apostrophe) (hseparator : c ∉ Token.separators)
    (hspecial : c ∉ Token.specials) (htoken : (operator (c :: rest)).token? = some token) :
    token.WellFormed := by
  have hsingle : (operator.single c).token? = some token → token.WellFormed := by
    intro htoken
    by_cases hop : [c] ∈ Token.operators
    · rw [operator.single, if_pos hop] at htoken
      cases htoken
      exact hop
    · rw [operator.single, if_neg hop] at htoken
      cases htoken
      exact ⟨c, rfl, hspace, hletter, hdecimal, hquote, hapostrophe, hseparator, hspecial, hop⟩
  cases rest with
  | nil => exact hsingle htoken
  | cons d rest =>
    by_cases hpair : [c, d] ∈ Token.operators
    · have hoperator : operator (c :: d :: rest) = ofToken ⟨.operator, [c, d]⟩ := if_pos hpair
      rw [hoperator] at htoken
      cases htoken
      exact hpair
    · have hoperator : operator (c :: d :: rest) = operator.single c := if_neg hpair
      rw [hoperator] at htoken
      exact hsingle htoken

/-- A rule that fits gives a token that its kind admits. Only at the end of the text can the closing
mark be missing. -/
theorem Fits.wellFormed {legacy : Bool} {text : Text} {reading : Reading} {token : Token}
    (h : Fits legacy text reading) (htoken : reading.token? = some token) :
    token.WellFormed ∨
      token.Unfinished ∧ text = token.kind.opening ++ token.value ∧
        text.drop reading.width = [] := by
  cases h with
  | blanks | lineComment | blockComment => cases htoken
  | newline =>
    cases htoken
    exact .inl rfl
  | word hc =>
    cases htoken
    exact .inl (Token.wellFormed_ofWord hc _)
  | numeral hc =>
    cases htoken
    exact .inl (Token.wellFormed_ofNumeral hc)
  | @multilineString rest =>
    cases htoken
    cases hclosed : (Body.read tripleQuote rest).closed with
    | true => exact .inl (wellFormed_multilineString hclosed)
    | false =>
      have hbody := Body.read_of_not_closed hclosed
      refine .inr ⟨Body.not_infix_read (List.cons_ne_nil _ _) rest, ?_, ?_⟩
      · exact congrArg (tripleQuote ++ ·) hbody.symm
      · exact (spans_multilineString rest).following_eq hclosed
  | @string rest =>
    cases htoken
    refine .inl fun hquote => ?_
    have hinfix := (List.singleton_infix_iff _ _).mpr hquote
    exact Body.not_infix_read (List.cons_ne_nil _ _) rest hinfix
  | @character rest =>
    rw [token?_character] at htoken
    cases htoken
    exact .inl (wellFormed_character rest)
  | @documentation rest hrest =>
    cases htoken
    cases hclosed : (Body.read commentEnd rest).closed with
    | true => exact .inl (wellFormed_documentation hrest hclosed)
    | false =>
      obtain ⟨hopen, htext⟩ := unfinished_documentation hrest hclosed
      exact .inr ⟨hopen, htext, (spans_documentation rest).following_eq hclosed⟩
  | separator hc =>
    cases htoken
    exact .inl ⟨_, hc, rfl⟩
  | special hc =>
    cases htoken
    exact .inl ⟨_, hc, rfl⟩
  | @operator c rest hblank hnewline hletter hnumeral hquote hapostrophe _ hseparator hspecial =>
    have hspace : ¬ Text.isSpace c :=
      fun hspace => hblank (by simp [Text.isBlank, hspace, hnewline])
    exact .inl (wellFormed_operator hspace hletter (fun hdecimal => hnumeral (.inl hdecimal)) hquote
      hapostrophe hseparator hspecial htoken)

end Reading

/-- The token of an entry is admitted, or it is unfinished: then it is the last one, and the text
ends with its value. -/
theorem Segment.wellFormed_of_getElem?_tokensAt {legacy : Bool} {text : Text} {i start : Nat}
    {token : Token} (h : (tokensAt (locate 0 (scan legacy text)))[i]? = some (start, token)) :
    token.WellFormed ∨
      token.Unfinished ∧ text.drop start = token.kind.opening ++ token.value ∧
        i + 1 = ((scan legacy text).filterMap token?).length := by
  obtain ⟨n, segment, following, hstart, hscan, htoken, htokens⟩ := exists_scan_drop h
  obtain ⟨hfits, -, hfollowing⟩ := of_scan_eq_cons hscan
  rw [Nat.zero_add] at hstart
  subst hstart
  obtain hformed | ⟨hopen, htext, hdrop⟩ := hfits.wellFormed htoken
  · exact .inl hformed
  · rw [hfollowing, hdrop, scan_nil, List.filterMap_nil] at htokens
    have hlength := congrArg List.length htokens
    rw [List.length_drop, List.length_singleton] at hlength
    exact .inr ⟨hopen, htext, by omega⟩

/-- The end of input stands once and last, and every token before it is one that its kind admits. A
documentation comment without its end, or a multi-line string without its closing quotes, is the
last token before it, and its value reaches the end of the source. -/
theorem examine_wellFormed (source : Source) (options : Options) :
    ∃ diagnosis tokens, examine source options false = .ok diagnosis ∧
      lex source.text options = .ok diagnosis.tokens ∧
      diagnosis.tokens = tokens ++ [.eof] ∧
      ∀ i : Fin tokens.length,
        tokens[i].kind ≠ .eof ∧ tokens[i].kind ∉ Kind.setAside ∧
        (tokens[i].WellFormed ∨
          tokens[i].Unfinished ∧ i + 1 = tokens.length ∧
            ∃ start : Nat, diagnosis.offsets[i.val]? = some (start : Int) ∧
              source.text.drop start = tokens[i].kind.opening ++ tokens[i].value) := by
  refine ⟨diagnose source options,
    (Segment.scan options.legacy source.text).filterMap Segment.token?, ?_, ?_,
    tokens_diagnose source options, fun i => ?_⟩
  · rw [examine_eq]
    rfl
  · rw [lex_eq, tokens_diagnose]
  have hsnd := Segment.snd_tokensAt 0 (Segment.scan options.legacy source.text)
  have hi : i.val < (Segment.tokensAt (Segment.locate 0
      (Segment.scan options.legacy source.text))).length := by
    rw [← List.length_map Prod.snd, hsnd]
    exact i.isLt
  obtain ⟨start, token, hentry⟩ : ∃ start token, (Segment.tokensAt (Segment.locate 0
      (Segment.scan options.legacy source.text)))[i.val]? = some (start, token) :=
    ⟨_, _, List.getElem?_eq_getElem hi⟩
  have htoken :
      ((Segment.scan options.legacy source.text).filterMap Segment.token?)[i] = token := by
    have hmap := congrArg (Option.map Prod.snd) hentry
    rw [← List.getElem?_map, hsnd] at hmap
    exact (List.getElem?_eq_some_iff.mp hmap).2
  have hoffset : (diagnose source options).offsets[i.val]? = some (start : Int) := by
    rw [offsets_diagnose, List.getElem?_map, starts, List.getElem?_append_left hi, hentry]
    rfl
  rw [htoken]
  have hformed := Segment.wellFormed_of_getElem?_tokensAt hentry
  obtain ⟨heof, haside⟩ := Kind.not_mem_setAside (hformed.imp_right And.left)
  refine ⟨heof, haside, hformed.imp_right ?_⟩
  rintro ⟨hopen, htext, hlast⟩
  exact ⟨hopen, hlast, start, hoffset, htext⟩

end Lexical
