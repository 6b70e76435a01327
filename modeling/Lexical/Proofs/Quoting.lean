import Lexical.Proofs.Decoding
import Lexical.Proofs.Printing

/-! Reading printed tokens. A quoted text is read back up to its delimiter, as each character is
written in a way that neither starts with the delimiter nor is mistaken for another one
(`Decoder.quotedCharacter?_escape`). No printed token has a newline in it, so the lines of a print
are its tokens, and the tokens are read back from them (`Token.renderAll_lines`). -/

namespace Lexical

/-! ### Quoted texts -/

namespace Text

theorem delimiter_eq (text : Text) : text.delimiter = '\x27' ∨ text.delimiter = '\x22' := by
  unfold delimiter
  split
  · exact .inr rfl
  · exact .inl rfl

theorem exists_escape_eq_cons {delimiter : Char} (hdelimiter : delimiter ≠ '\\') (c : Char) :
    ∃ first rest, escape delimiter c = first :: rest ∧ first ≠ delimiter := by
  fun_cases escape delimiter c with
  | case1 | case2 | case3 | case4 => exact ⟨_, _, rfl, hdelimiter.symm⟩
  | case5 hplain => exact ⟨c, [], rfl, fun hc => hplain (.inl hc)⟩
  | case6 =>
    fun_cases numericEscape c with
    | case1 | case2 | case3 => exact ⟨_, _, rfl, hdelimiter.symm⟩

end Text

namespace Decoder

/-- What a backslash is followed by: a letter that stands for a character, a code, or the character
itself. -/
def escaped? : Decoder Char
  | [] => none
  | c :: rest =>
    match c with
    | 'n' => some ('\n', rest)
    | 'r' => some ('\r', rest)
    | 't' => some ('\t', rest)
    | 'x' => code? 2 rest
    | 'u' => code? 4 rest
    | 'U' => code? 8 rest
    | c => some (c, rest)

def quotedCharacter? : Decoder Char
  | [] => none
  | c :: rest => if c = '\\' then escaped? rest else some (c, rest)

/-- A quoted text. The character that it starts with delimits it. -/
def quoted? : Decoder Text
  | [] => none
  | delimiter :: rest => body? delimiter quotedCharacter? rest

theorem quotedCharacter?_numericEscape (c : Char) (rest : Text) :
    quotedCharacter? (Text.numericEscape c ++ rest) = some (c, rest) := by
  fun_cases Text.numericEscape c with
  | case1 h => exact code?_hex h rest
  | case2 _ h => exact code?_hex h rest
  | case3 => exact code?_hex (Nat.lt_of_lt_of_le (toNat_lt c) (by decide)) rest

theorem quotedCharacter?_escape {delimiter : Char}
    (hdelimiter : delimiter = '\x27' ∨ delimiter = '\x22') (c : Char) (rest : Text) :
    quotedCharacter? (Text.escape delimiter c ++ rest) = some (c, rest) := by
  fun_cases Text.escape delimiter c with
  | case1 h =>
    rcases h with rfl | rfl
    · rcases hdelimiter with rfl | rfl <;> rfl
    · rfl
  | case2 _ h | case3 _ _ h | case4 _ _ _ h =>
    rw [h]
    rfl
  | case5 hplain =>
    exact if_neg fun hc => hplain (.inr hc)
  | case6 => exact quotedCharacter?_numericEscape c rest

theorem quoted?_quoted (text rest : Text) : quoted? (text.quoted ++ rest) = some (text, rest) := by
  have hdelimiter := text.delimiter_eq
  have hbackslash : text.delimiter ≠ '\\' := by
    rcases hdelimiter with h | h <;> rw [h] <;> decide
  have hbody := body?_flatMap (Text.exists_escape_eq_cons hbackslash)
    (quotedCharacter?_escape hdelimiter) text rest
  rwa [Text.quoted, List.append_assoc]

end Decoder

/-! ### Printed tokens -/

theorem Kind.comma_not_mem_name (kind : Kind) : ',' ∉ kind.name := by
  cases kind <;> decide

/-- The kind with the name up to a comma. -/
def Decoder.kind? : Decoder Kind := fun text =>
  let name := text.takeWhile (· != ',')
  (Kind.ofName? name).map (·, text.drop name.length)

theorem Decoder.kind?_name (kind : Kind) (rest : Text) :
    kind? (kind.name ++ ',' :: rest) = some (kind, ',' :: rest) := by
  have hname : (kind.name ++ ',' :: rest).takeWhile (· != ',') = kind.name := by
    rw [Text.takeWhile_ne_append kind.comma_not_mem_name]
    exact List.append_nil _
  rw [kind?, hname, Kind.ofName?_name, List.drop_left]
  rfl

namespace Token

/-- The token that a line shows. -/
def read? (line : Text) : Option Token := do
  let rest ← List.isPrefixOf? ("Token(" : Text) line
  let (kind, rest) ← Decoder.kind? rest
  let rest ← List.isPrefixOf? (", " : Text) rest
  let (value, rest) ← Decoder.quoted? rest
  if rest = [')'] then some ⟨kind, value⟩ else none

/-- The tokens that the lines of a text show. A text without lines shows none. -/
def readLines? (text : Text) : Option (List Token) :=
  if text = [] then some [] else (text.splitOn '\n').mapM read?

theorem read?_render (token : Token) : read? token.render = some token := by
  have hopening (rest : List Char) :
      List.isPrefixOf? "Token(".toList ("Token(".toList ++ rest) = some rest :=
    List.isPrefixOf?_eq_some_iff_append_eq.mpr rfl
  have hkind (rest : List Char) : Decoder.kind? (token.kind.name ++ (", ".toList ++ rest)) =
      some (token.kind, ", ".toList ++ rest) := Decoder.kind?_name token.kind (' ' :: rest)
  have hcomma (rest : List Char) : List.isPrefixOf? ", ".toList (", ".toList ++ rest) = some rest :=
    List.isPrefixOf?_eq_some_iff_append_eq.mpr rfl
  unfold read? render
  simp only [List.append_assoc, Option.bind_eq_bind]
  rw [hopening, Option.bind_some, hkind, Option.bind_some, hcomma, Option.bind_some,
    Decoder.quoted?_quoted]
  rfl

theorem mapM_read?_map_render (tokens : List Token) :
    (tokens.map render).mapM read? = some tokens := by
  induction tokens with
  | nil => rfl
  | cons token tokens ih => simp [List.mapM_cons, read?_render, ih]

theorem splitOn_renderLines {tokens : List Token} (h : tokens ≠ []) :
    (renderLines tokens).splitOn '\n' = tokens.map render := by
  refine List.splitOn_intercalate _ ?_ ?_
  · intro line hline
    obtain ⟨token, -, rfl⟩ := List.mem_map.mp hline
    exact token.controlFree_render.not_mem (by decide)
  · rwa [Ne, List.map_eq_nil_iff]

theorem readLines?_renderLines (tokens : List Token) :
    readLines? (renderLines tokens) = some tokens := by
  cases tokens with
  | nil => rfl
  | cons token tokens =>
    have hne : renderLines (token :: tokens) ≠ [] := by
      intro hempty
      have hlines := splitOn_renderLines (List.cons_ne_nil token tokens)
      rw [hempty, List.map_cons] at hlines
      cases (List.cons.inj hlines).1
    rw [readLines?, if_neg hne, splitOn_renderLines (List.cons_ne_nil _ _), mapM_read?_map_render]

theorem renderLines_injective : Function.Injective renderLines := by
  have hread : readLines? ∘ renderLines = some := funext readLines?_renderLines
  have hsome : Function.Injective (some : List Token → _) := fun _ _ => Option.some.inj
  rw [← hread] at hsome
  exact hsome.of_comp

/-- Printed tokens stand on a line each, and are read back from it, also when their values have
newlines, delimiters or escapes in them. So different tokens are printed differently. -/
theorem renderAll_lines (tokens : List Token) :
    (tokens ≠ [] → (renderAll false tokens).splitOn '\n' = tokens.map render) ∧
    readLines? (renderAll false tokens) = some tokens ∧
    ∀ others, renderAll false others = renderAll false tokens ↔ others = tokens :=
  ⟨splitOn_renderLines, readLines?_renderLines tokens, fun _ => renderLines_injective.eq_iff⟩

end Token
end Lexical
