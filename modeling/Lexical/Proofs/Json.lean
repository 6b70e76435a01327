import Lexical.Proofs.Decoding
import Lexical.Proofs.Printing

/-! JSON documents, and what printed tokens are as one. `Json.decode` reads any document: it takes
white space, constants, numbers, strings with their escapes, arrays and objects. A string is read
back from its ASCII form (`Json.string?_jsonString`), also when it has characters that are written
as surrogate pairs, and items are read back from between their marks (`Json.list?_flatMap`). So
printed tokens are read back as the objects that they stand for (`Token.renderAll_json`). -/

namespace Lexical

/-- A JSON value. -/
inductive Json where
  | null
  | bool (value : Bool)
  /-- A number, as it is written. -/
  | number (numeral : Text)
  | string (text : Text)
  | array (items : List Json)
  | object (members : List (Text × Json))

namespace Json

/-! ### Decoding -/

/-- The four characters that may stand between the parts of a document. -/
def isSpace (c : Char) : Bool := c == ' ' || c == '\t' || c == '\n' || c == '\r'

/-- What is left of a text after the white space at its start. -/
def skipSpace (text : Text) : Text := text.dropWhile isSpace

/-- The characters that a letter after a backslash stands for. -/
def escapes : List (Char × Char) :=
  [('\x22', '\x22'), ('\\', '\\'), ('/', '/'), ('b', '\x08'), ('f', '\x0c'), ('n', '\n'),
    ('r', '\r'), ('t', '\t')]

/-- A unit of a UTF-16 form. -/
def unit? : Decoder Nat
  | '\\' :: 'u' :: rest => Decoder.hexNumeral? 4 rest
  | _ => none

/-- The character that a high and a low unit stand for. -/
def ofPair? (high low : Nat) : Option Char :=
  if 0xDC00 ≤ low ∧ low ≤ 0xDFFF then
    Decoder.ofCode? (0x10000 + (high - 0xD800) * 0x400 + (low - 0xDC00))
  else none

/-- A character by its unit, or by both units of a surrogate pair. -/
def unicode? : Decoder Char := fun text => do
  let (unit, rest) ← unit? text
  if 0xD800 ≤ unit ∧ unit ≤ 0xDBFF then
    let (low, rest) ← unit? rest
    (ofPair? unit low).map (·, rest)
  else (Decoder.ofCode? unit).map (·, rest)

/-- A character of a string. A control character has to be escaped. -/
def character? : Decoder Char
  | [] => none
  | c :: rest =>
    if c = '\\' then
      match rest with
      | [] => none
      | letter :: following =>
        if letter = 'u' then unicode? (c :: rest) else (escapes.lookup letter).map (·, following)
    else if c.toNat < 0x20 then none
    else some (c, rest)

def string? : Decoder Text
  | '\x22' :: rest => Decoder.body? '\x22' character? rest
  | _ => none

/-- One digit or more, and nothing else. -/
def areDigits (digits : Text) : Bool := !digits.isEmpty && digits.all Char.isDigit

/-- A minus sign or none, a whole part without needless zeros, and perhaps a fraction and an
exponent. -/
def isNumeral (text : Text) : Bool :=
  let unsigned := if text.head? = some '-' then text.tail else text
  let (mantissa, exponent) := unsigned.span fun c => c != 'e' && c != 'E'
  let (whole, fraction) := mantissa.span (· != '.')
  let power := exponent.tail
  let digits := if power.head? = some '+' ∨ power.head? = some '-' then power.tail else power
  areDigits whole && (whole.head? != some '0' || whole.length == 1) &&
    (fraction.isEmpty || areDigits fraction.tail) && (exponent.isEmpty || areDigits digits)

/-- A value without an end mark: a constant or a number. -/
def word? : Decoder Json := fun text =>
  let (word, rest) := text.span fun c => c.isAlphanum || c == '+' || c == '-' || c == '.'
  if word = "null" then some (null, rest)
  else if word = "true" then some (bool true, rest)
  else if word = "false" then some (bool false, rest)
  else if isNumeral word then some (number word, rest)
  else none

/-- Items with commas between them, up to a closing mark, by a number of steps that leaves room for
all of them. -/
def items? (close : Char) (item? : Decoder α) : Nat → Decoder (List α)
  | 0, _ => none
  | steps + 1, text => do
    let (item, rest) ← item? text
    match skipSpace rest with
    | [] => none
    | c :: rest =>
      if c = close then some ([item], rest)
      else if c = ',' then
        let (items, rest) ← items? close item? steps rest
        some (item :: items, rest)
      else none

/-- What stands between an opening mark and the closing one: items, or none. -/
def list? (close : Char) (item? : Decoder α) : Decoder (List α) := fun text =>
  match skipSpace text with
  | [] => none
  | c :: rest => if c = close then some ([], rest) else items? close item? text.length text

/-- A name, a colon and a value. -/
def member? (value? : Decoder Json) : Decoder (Text × Json) := fun text => do
  let (name, rest) ← string? (skipSpace text)
  match skipSpace rest with
  | ':' :: rest =>
    let (value, rest) ← value? rest
    some ((name, value), rest)
  | _ => none

/-- A value that is nested no deeper than a depth. -/
def value? : Nat → Decoder Json
  | 0, _ => none
  | depth + 1, text =>
    match skipSpace text with
    | '\x22' :: rest => (string? ('\x22' :: rest)).map fun (text, rest) => (string text, rest)
    | '[' :: rest => (list? ']' (value? depth) rest).map fun (items, rest) => (array items, rest)
    | '\x7b' :: rest =>
      (list? '\x7d' (member? (value? depth)) rest).map fun (members, rest) => (object members, rest)
    | rest => word? rest

/-- The value of a document. -/
def decode (text : Text) : Option Json := do
  let (value, rest) ← value? text.length text
  if skipSpace rest = [] then some value else none

example :
    decode "[-1.5e3, true , \x7b\"a\": \"\\ud83d\\ude00\\/\", \"b\": [ ]\x7d]\n" =
      some (.array [.number "-1.5e3", .bool true,
        .object [("a", .string ['😀', '/']), ("b", .array [])]]) := by
  rfl

/-! ### Strings -/

theorem unit?_unicodeEscape {unit : Nat} (h : unit < 0x10000) (rest : Text) :
    unit? (Text.unicodeEscape unit ++ rest) = some (unit, rest) :=
  Decoder.hexNumeral?_hex h rest

theorem unicode?_unicodeEscape {c : Char} (h : c.toNat < 0x10000) (rest : Text) :
    unicode? (Text.unicodeEscape c.toNat ++ rest) = some (c, rest) := by
  have hvalid : ¬ (0xD800 ≤ c.toNat ∧ c.toNat ≤ 0xDBFF) := by
    have hvalid : c.toNat < 0xD800 ∨ 0xDFFF < c.toNat ∧ c.toNat < 0x110000 := c.valid
    omega
  rw [unicode?, unit?_unicodeEscape h, Option.bind_eq_bind, Option.bind_some]
  dsimp only
  rw [if_neg hvalid, Decoder.ofCode?_toNat]
  rfl

/-- The units of a pair give back the character. -/
theorem ofPair?_units {c : Char} (h : 0x10000 ≤ c.toNat) :
    ofPair? (0xD800 + (c.toNat - 0x10000) / 0x400) (0xDC00 + (c.toNat - 0x10000) % 0x400) =
      some c := by
  have hlow : 0xDC00 ≤ 0xDC00 + (c.toNat - 0x10000) % 0x400 ∧
      0xDC00 + (c.toNat - 0x10000) % 0x400 ≤ 0xDFFF := by omega
  have hcode : 0x10000 + (0xD800 + (c.toNat - 0x10000) / 0x400 - 0xD800) * 0x400 +
      (0xDC00 + (c.toNat - 0x10000) % 0x400 - 0xDC00) = c.toNat := by omega
  rw [ofPair?, if_pos hlow, hcode, Decoder.ofCode?_toNat]

theorem unicode?_pair {c : Char} (h : 0x10000 ≤ c.toNat) (rest : Text) :
    unicode? (Text.unicodeEscape (0xD800 + (c.toNat - 0x10000) / 0x400) ++
      (Text.unicodeEscape (0xDC00 + (c.toNat - 0x10000) % 0x400) ++ rest)) = some (c, rest) := by
  have hlimit := Decoder.toNat_lt c
  have hpair := ofPair?_units h
  generalize hhigh : 0xD800 + (c.toNat - 0x10000) / 0x400 = high at hpair ⊢
  generalize hlow : 0xDC00 + (c.toNat - 0x10000) % 0x400 = low at hpair ⊢
  rw [unicode?, unit?_unicodeEscape (by omega), Option.bind_eq_bind, Option.bind_some]
  dsimp only
  rw [if_pos (by omega), unit?_unicodeEscape (by omega), Option.bind_some]
  dsimp only
  rw [hpair]
  rfl

theorem character?_unicodeEscape (unit : Nat) (rest : Text) :
    character? (Text.unicodeEscape unit ++ rest) = unicode? (Text.unicodeEscape unit ++ rest) := rfl

theorem character?_jsonEscape (c : Char) (rest : Text) :
    character? (Text.jsonEscape c ++ rest) = some (c, rest) := by
  fun_cases Text.jsonEscape c with
  | case1 h | case2 _ h | case3 _ _ h | case4 _ _ _ h | case5 _ _ _ _ h | case6 _ _ _ _ _ h
  | case7 _ _ _ _ _ _ h =>
    rw [h]
    rfl
  | case8 _ hbackslash _ _ _ _ _ h =>
    exact (if_neg hbackslash).trans (if_neg (Nat.not_lt_of_le h.1))
  | case9 _ _ _ _ _ _ _ _ h =>
    rw [character?_unicodeEscape, unicode?_unicodeEscape h]
  | case10 _ _ _ _ _ _ _ _ h =>
    rw [List.append_assoc, character?_unicodeEscape, unicode?_pair (Nat.le_of_not_lt h)]

theorem exists_jsonEscape_eq_cons (c : Char) :
    ∃ first rest, Text.jsonEscape c = first :: rest ∧ first ≠ '\x22' := by
  fun_cases Text.jsonEscape c with
  | case8 h => exact ⟨c, [], rfl, h⟩
  | _ => exact ⟨_, _, rfl, by decide⟩

theorem string?_jsonString (text rest : Text) :
    string? (text.jsonString ++ rest) = some (text, rest) := by
  have hbody := Decoder.body?_flatMap exists_jsonEscape_eq_cons character?_jsonEscape text rest
  rw [Text.jsonString, List.append_assoc]
  exact hbody

/-! ### Layout -/

theorem skipSpace_append {pad : Text} (h : pad.all isSpace) (text : Text) :
    skipSpace (pad ++ text) = skipSpace text :=
  List.dropWhile_append_of_pos (List.all_eq_true.mp h)

theorem skipSpace_cons {c : Char} (h : isSpace c = false) (text : Text) :
    skipSpace (c :: text) = c :: text :=
  List.dropWhile_cons_of_neg (by simp [h])

theorem skipSpace_append_cons {pad : Text} {c : Char} (h : pad.all isSpace)
    (hc : isSpace c = false) (text : Text) : skipSpace (pad ++ c :: text) = c :: text := by
  rw [skipSpace_append h, skipSpace_cons hc]

theorem intercalate_cons (separator first : Text) (others : List Text) :
    List.intercalate separator (first :: others) = first ++ others.flatMap (separator ++ ·) := by
  induction others generalizing first with
  | nil => simp
  | cons next others ih =>
    rw [List.intercalate_cons_cons, ih next, List.flatMap_cons, List.append_assoc,
      List.append_assoc]

section

variable {ι α : Type} {close : Char} {item? : Decoder α} {value : ι → α} {written : ι → Text}
  {ending : Text} (hclose : isSpace close = false) (hcomma : ',' ≠ close)
  (hending : ending.all isSpace)
  (hread : ∀ i rest, item? (written i ++ rest) = some (value i, rest))

include hclose hcomma hending hread

theorem items?_flatMap {steps : Nat} (first : ι) (others : List ι) (h : others.length < steps)
    (rest : Text) :
    items? close item? steps (written first ++
        (others.flatMap (fun i => ',' :: written i) ++ (ending ++ close :: rest))) =
      some (value first :: others.map value, rest) := by
  induction others generalizing first steps with
  | nil =>
    obtain ⟨steps, rfl⟩ := Nat.exists_eq_add_one_of_ne_zero (Nat.ne_of_gt h)
    rw [items?, hread, Option.bind_eq_bind, Option.bind_some]
    dsimp only
    rw [List.flatMap_nil, List.nil_append, skipSpace_append_cons hending hclose]
    exact if_pos rfl
  | cons next others ih =>
    obtain ⟨steps, rfl⟩ := Nat.exists_eq_add_one_of_ne_zero (Nat.ne_zero_of_lt h)
    have hnext := ih next (Nat.lt_of_succ_lt_succ h)
    rw [List.flatMap_cons, List.append_assoc, items?, hread, Option.bind_eq_bind, Option.bind_some]
    dsimp only
    rw [List.cons_append, skipSpace_cons (by decide)]
    dsimp only
    rw [if_neg hcomma, if_pos rfl, hnext]
    rfl

/-- Items are read back from between two marks, if they start with another one than the closing. -/
theorem list?_flatMap {opening : Char} (hopening : opening ≠ close)
    (hstart : ∀ i rest, (skipSpace (written i ++ rest)).head? = some opening) (first : ι)
    (others : List ι) (rest : Text) :
    list? close item? (written first ++
        (others.flatMap (fun i => ',' :: written i) ++ (ending ++ close :: rest))) =
      some (value first :: others.map value, rest) := by
  have hlength := Decoder.length_le_length_flatMap
    (fun i => List.cons_ne_nil ',' (written i)) others
  obtain ⟨text, hskip⟩ := List.head?_eq_some_iff.mp (hstart first _)
  rw [list?, hskip]
  dsimp only
  rw [if_neg hopening]
  refine items?_flatMap hclose hcomma hending hread first others ?_ rest
  simp only [List.length_append, List.length_cons]
  omega

end

/-! ### Values -/

variable {pad : Text} (hpad : pad.all isSpace)

include hpad

theorem value?_jsonString (depth : Nat) (text rest : Text) :
    value? (depth + 1) (pad ++ (text.jsonString ++ rest)) = some (string text, rest) := by
  have hstring := string?_jsonString text rest
  rw [Text.jsonString, List.append_assoc, List.cons_append] at hstring ⊢
  rw [value?, skipSpace_append_cons hpad (by decide)]
  exact congrArg (Option.map fun (text, rest) => (string text, rest)) hstring

theorem member?_jsonString (depth : Nat) (name text rest : Text) :
    member? (value? (depth + 1))
        (pad ++ (name.jsonString ++ ([':', ' '] ++ (text.jsonString ++ rest)))) =
      some ((name, string text), rest) := by
  have hskip (rest : Text) :
      skipSpace (pad ++ (name.jsonString ++ rest)) = name.jsonString ++ rest := by
    rw [Text.jsonString, List.append_assoc, List.cons_append,
      skipSpace_append_cons hpad (by decide)]
  have hvalue := value?_jsonString (show [' '].all isSpace by decide) depth text rest
  rw [member?, hskip, string?_jsonString, Option.bind_eq_bind, Option.bind_some, List.cons_append]
  dsimp only
  rw [skipSpace_cons (by decide)]
  exact congrArg (Option.bind · fun (value, rest) => some ((name, value), rest)) hvalue

end Json

namespace Token

/-- The object that a token is printed as. -/
def toJson (token : Token) : Json :=
  .object [("type", .string token.kind.name), ("value", .string token.value)]

theorem toJson_injective : Function.Injective toJson := by
  rintro ⟨kind, value⟩ ⟨kind', value'⟩ h
  simp only [toJson, Json.object.injEq, List.cons.injEq, Prod.mk.injEq, Json.string.injEq] at h
  obtain ⟨⟨-, hkind⟩, ⟨-, rfl⟩, -⟩ := h
  rw [Kind.name_injective hkind]

/-! ### Printed members and objects -/

/-- A member of a printed object, on a line of its own. -/
def renderMember (entry : Text × Text) : Text :=
  ['\n', ' ', ' ', ' ', ' '] ++ (entry.1.jsonString ++ ([':', ' '] ++ entry.2.jsonString))

theorem renderObject_eq (token : Token) :
    token.renderObject = [' ', ' ', '\x7b'] ++ (renderMember ("type", token.kind.name) ++
      (',' :: renderMember ("value", token.value) ++ ['\n', ' ', ' ', '\x7d'])) := by
  have htype : ("  \x7b\n    \"type\": " : Text) =
      [' ', ' ', '\x7b'] ++
        (['\n', ' ', ' ', ' ', ' '] ++ (Text.jsonString "type" ++ [':', ' '])) := by
    decide
  have hvalue : (",\n    \"value\": " : Text) =
      [','] ++ (['\n', ' ', ' ', ' ', ' '] ++ (Text.jsonString "value" ++ [':', ' '])) := by
    decide
  have hend : ("\n  \x7d" : Text) = ['\n', ' ', ' ', '\x7d'] := by decide
  unfold renderObject renderMember
  rw [htype, hvalue, hend]
  simp only [List.append_assoc, List.cons_append, List.nil_append]

theorem member?_renderMember (depth : Nat) (entry : Text × Text) (rest : Text) :
    Json.member? (Json.value? (depth + 1)) (renderMember entry ++ rest) =
      some ((entry.1, .string entry.2), rest) := by
  have hpad : ['\n', ' ', ' ', ' ', ' '].all Json.isSpace := by decide
  have hmember := Json.member?_jsonString hpad depth entry.1 entry.2 rest
  simpa only [renderMember, List.append_assoc] using hmember

theorem head?_skipSpace_renderMember (entry : Text × Text) (rest : Text) :
    (Json.skipSpace (renderMember entry ++ rest)).head? = some '\x22' := by
  rw [renderMember, List.append_assoc, Json.skipSpace_append (by decide)]
  rfl

theorem list?_renderMember (depth : Nat) (entry entry' : Text × Text) (rest : Text) :
    Json.list? '\x7d' (Json.member? (Json.value? (depth + 1)))
        (renderMember entry ++ (',' :: renderMember entry' ++ ['\n', ' ', ' ', '\x7d']) ++ rest) =
      some ([(entry.1, .string entry.2), (entry'.1, .string entry'.2)], rest) := by
  have hmembers := Json.list?_flatMap (by decide) (by decide)
    (show ['\n', ' ', ' '].all Json.isSpace by decide) (member?_renderMember depth)
    (show '\x22' ≠ '\x7d' by decide) head?_skipSpace_renderMember entry [entry'] rest
  simpa only [List.flatMap_singleton, List.append_assoc, List.cons_append, List.nil_append,
    List.map_singleton] using hmembers

theorem value?_renderObject (depth : Nat) (token : Token) (rest : Text) :
    Json.value? (depth + 2) ('\n' :: token.renderObject ++ rest) = some (token.toJson, rest) := by
  have hmembers := list?_renderMember depth ("type", token.kind.name) ("value", token.value) rest
  have hskip (members : Text) :
      Json.skipSpace ('\n' :: ([' ', ' ', '\x7b'] ++ members) ++ rest) =
        '\x7b' :: (members ++ rest) := rfl
  rw [renderObject_eq, Json.value?, hskip]
  exact congrArg (Option.map fun (members, rest) => (Json.object members, rest)) hmembers

theorem head?_skipSpace_renderObject (token : Token) (rest : Text) :
    (Json.skipSpace ('\n' :: token.renderObject ++ rest)).head? = some '\x7b' := by
  rw [renderObject_eq]
  rfl

/-! ### Printed tokens -/

theorem renderJson_cons (token : Token) (tokens : List Token) :
    renderJson (token :: tokens) = '[' :: ('\n' :: token.renderObject ++
      (tokens.flatMap (fun token => ',' :: '\n' :: token.renderObject) ++ (['\n'] ++ [']']))) := by
  have hopening : ("[\n" : Text) = ['[', '\n'] := by decide
  have hclosing : ("\n]" : Text) = ['\n', ']'] := by decide
  show "[\n" ++ List.intercalate [',', '\n'] ((token :: tokens).map renderObject) ++ "\n]" = _
  rw [hopening, hclosing, List.map_cons, Json.intercalate_cons, List.flatMap_map]
  simp only [List.append_assoc, List.cons_append, List.nil_append]

theorem decode_renderJson (tokens : List Token) :
    Json.decode (renderJson tokens) = some (.array (tokens.map toJson)) := by
  cases tokens with
  | nil => rfl
  | cons token tokens =>
    obtain ⟨depth, hdepth⟩ : ∃ depth, (renderJson (token :: tokens)).length = depth + 3 := by
      refine Nat.exists_eq_add_of_le' ?_
      rw [renderJson_cons]
      simp only [List.length_cons, List.length_append]
      omega
    have hitems := Json.list?_flatMap (by decide) (by decide)
      (show ['\n'].all Json.isSpace by decide) (value?_renderObject depth)
      (show '\x7b' ≠ ']' by decide) head?_skipSpace_renderObject token tokens []
    have hvalue : Json.value? (depth + 3) (renderJson (token :: tokens)) =
        some (.array ((token :: tokens).map toJson), []) := by
      rw [renderJson_cons, Json.value?, Json.skipSpace_cons (by decide)]
      exact congrArg (Option.map fun (items, rest) => (Json.array items, rest)) hitems
    rw [Json.decode, hdepth, hvalue]
    rfl

theorem renderJson_injective : Function.Injective renderJson := by
  have hdecode : Json.decode ∘ renderJson = some ∘ Json.array ∘ List.map toJson :=
    funext decode_renderJson
  have harray : Function.Injective (some ∘ Json.array) :=
    fun _ _ h => Json.array.inj (Option.some.inj h)
  have hvalue := harray.comp toJson_injective.list_map
  rw [Function.comp_assoc, ← hdecode] at hvalue
  exact hvalue.of_comp

/-- Printed tokens are a JSON document in ASCII, whose value is the array of the objects of the
tokens with the names of their kinds. So different tokens are printed differently. -/
theorem renderAll_json (tokens : List Token) :
    (∀ c ∈ renderAll true tokens, c.toNat < 0x80) ∧
    Json.decode (renderAll true tokens) = some (.array (tokens.map toJson)) ∧
    ∀ others, renderAll true others = renderAll true tokens ↔ others = tokens := by
  refine ⟨fun c hc => ?_, decode_renderJson tokens, fun others => renderJson_injective.eq_iff⟩
  obtain rfl | ⟨-, hprintable⟩ := asciiLines_renderJson tokens c hc
  · decide
  · exact Nat.lt_of_le_of_lt hprintable (by decide)

end Token
end Lexical
