import Lexical.Text

/-! Taking values off the start of a text: hexadecimal numerals, and the body of a delimited text
whose characters were written one by one. Each decoder is met by what it undoes (`hexNumeral?_hex`,
`body?_flatMap`), with any text after it. -/

namespace Lexical

/-- A decoder takes a value off the start of a text, and leaves the rest. -/
abbrev Decoder (α : Type) := Text → Option (α × Text)

namespace Decoder

/-! ### Characters by their codes -/

/-- The value of a hexadecimal digit in lower case. -/
def hexDigit? (c : Char) : Option Nat :=
  if '0' ≤ c ∧ c ≤ '9' then some (c.toNat - '0'.toNat)
  else if 'a' ≤ c ∧ c ≤ 'f' then some (c.toNat - 'a'.toNat + 10)
  else if 'A' ≤ c ∧ c ≤ 'F' then some (c.toNat - 'A'.toNat + 10)
  else none

theorem hexDigit?_digitChar {d : Nat} (h : d < 16) : hexDigit? (Nat.digitChar d) = some d := by
  have hall : ∀ d < 16, hexDigit? (Nat.digitChar d) = some d := by decide
  exact hall d h

/-- The number that hexadecimal digits in either case stand for. -/
def ofHex? (digits : Text) : Option Nat :=
  digits.foldlM (fun n c => (hexDigit? c).map (n * 16 + ·)) 0

theorem ofHex?_hex {width n : Nat} (h : n < Nat.pow 16 width) :
    ofHex? (Text.hex width n) = some n := by
  induction width generalizing n with
  | zero =>
    rw [Nat.lt_one_iff.mp h]
    rfl
  | succ width ih =>
    have hhigh : n / 16 < Nat.pow 16 width := Nat.div_lt_of_lt_mul (Nat.mul_comm _ 16 ▸ h)
    have hlow := hexDigit?_digitChar (Nat.mod_lt n (show 16 > 0 by decide))
    unfold ofHex? at ih ⊢
    rw [Text.hex, List.foldlM_append, ih hhigh]
    simp [hlow, Nat.div_add_mod']

/-- A numeral of a fixed number of digits. -/
def hexNumeral? (width : Nat) : Decoder Nat := fun text =>
  if text.length < width then none
  else (ofHex? (text.take width)).map (·, text.drop width)

theorem hexNumeral?_hex {width n : Nat} (h : n < Nat.pow 16 width) (rest : Text) :
    hexNumeral? width (Text.hex width n ++ rest) = some (n, rest) := by
  have htake : (Text.hex width n ++ rest).take width = Text.hex width n :=
    List.take_left' (Text.length_hex width n)
  have hdrop : (Text.hex width n ++ rest).drop width = rest :=
    List.drop_left' (Text.length_hex width n)
  have hlength : ¬ (Text.hex width n ++ rest).length < width := by simp
  rw [hexNumeral?, if_neg hlength, htake, hdrop, ofHex?_hex h]
  rfl

theorem toNat_lt (c : Char) : c.toNat < 0x110000 := by
  rcases c.valid with h | ⟨-, h⟩
  · exact Nat.lt_trans h (by decide)
  · exact h

/-- The character with a code, if there is one. -/
def ofCode? (code : Nat) : Option Char :=
  if code.isValidChar then some (.ofNat code) else none

theorem ofCode?_toNat (c : Char) : ofCode? c.toNat = some c := by
  rw [ofCode?, if_pos (show c.toNat.isValidChar from c.valid), Char.ofNat_toNat]

/-- A character whose code is written in a fixed number of digits. -/
def code? (width : Nat) : Decoder Char := fun text => do
  let (code, rest) ← hexNumeral? width text
  let c ← ofCode? code
  some (c, rest)

theorem code?_hex {width : Nat} {c : Char} (h : c.toNat < Nat.pow 16 width) (rest : Text) :
    code? width (Text.hex width c.toNat ++ rest) = some (c, rest) := by
  rw [code?, hexNumeral?_hex h]
  simp [ofCode?_toNat]

/-! ### Delimited bodies -/

theorem length_le_length_flatMap {ι : Type} {write : ι → Text} (h : ∀ i, write i ≠ [])
    (items : List ι) : items.length ≤ (items.flatMap write).length := by
  induction items with
  | nil => exact Nat.le_refl _
  | cons i items ih =>
    have hwrite := List.length_pos_iff.mpr (h i)
    rw [List.flatMap_cons, List.length_append, List.length_cons]
    omega

/-- Characters up to a delimiter, by a number of steps that leaves room for all of them. -/
def characters? (delimiter : Char) (character? : Decoder Char) : Nat → Decoder Text
  | 0, _ => none
  | _ + 1, [] => none
  | steps + 1, c :: text =>
    if c = delimiter then some ([], text)
    else do
      let (first, text) ← character? (c :: text)
      let (body, text) ← characters? delimiter character? steps text
      some (first :: body, text)

/-- The characters up to a delimiter. -/
def body? (delimiter : Char) (character? : Decoder Char) : Decoder Text := fun text =>
  characters? delimiter character? (text.length + 1) text

variable {delimiter : Char} {character? : Decoder Char} {write : Char → Text}
  (hstart : ∀ c, ∃ first rest, write c = first :: rest ∧ first ≠ delimiter)
  (hread : ∀ c rest, character? (write c ++ rest) = some (c, rest))

include hstart hread

theorem characters?_flatMap {steps : Nat} {text : Text} (h : text.length < steps) (rest : Text) :
    characters? delimiter character? steps (text.flatMap write ++ delimiter :: rest) =
      some (text, rest) := by
  induction text generalizing steps with
  | nil =>
    obtain ⟨steps, rfl⟩ := Nat.exists_eq_add_one_of_ne_zero (Nat.ne_of_gt h)
    exact if_pos rfl
  | cons c text ih =>
    obtain ⟨steps, rfl⟩ := Nat.exists_eq_add_one_of_ne_zero (Nat.ne_zero_of_lt h)
    obtain ⟨first, tail, hwrite, hfirst⟩ := hstart c
    have hc := hread c (text.flatMap write ++ delimiter :: rest)
    have hbody := ih (Nat.lt_of_succ_lt_succ h)
    rw [hwrite, List.cons_append] at hc
    rw [List.flatMap_cons, List.append_assoc, hwrite, List.cons_append, characters?, if_neg hfirst,
      hc]
    simp [hbody]

/-- A text is read back from the characters that were written for it. -/
theorem body?_flatMap (text rest : Text) :
    body? delimiter character? (text.flatMap write ++ delimiter :: rest) = some (text, rest) := by
  refine characters?_flatMap hstart hread ?_ rest
  have hne : ∀ c, write c ≠ [] := by
    intro c
    obtain ⟨first, tail, hwrite, -⟩ := hstart c
    rw [hwrite]
    exact List.cons_ne_nil first tail
  have hlength := length_le_length_flatMap hne text
  rw [List.length_append]
  omega

end Decoder
end Lexical
