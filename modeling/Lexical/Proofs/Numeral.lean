import Lexical.Text.Classes
import Lexical.Text.Numeral
import Mathlib.Data.Nat.Digits.Defs

/-! Which texts are numerals, and of which numbers. How digits are written is said without the
reader (`Text.Writes`), and a `Text.Numeral` is a run of them with a sign and white space around it.
The reader takes those texts for the numbers that their digits have in base ten (`Text.int?_text`),
and no others (`Text.int?_eq_none_iff`). Every number is spelled by numerals with any zeros before
its digits (`Text.Numeral.Spells.value_eq`), and by its decimal numeral if that is not too long
(`Text.Numeral.exists_spells`). -/

namespace Lexical.Text

/-! ### Runs of digits -/

/-- The digits that a run of characters writes, in any scripts, with an underscore between two of
them or none. -/
inductive Writes : Text → List Nat → Prop where
  | last {c : Char} {d : Nat} (hc : decimalValue? c = some d) : Writes [c] [d]
  | digit {c : Char} {d : Nat} {run : Text} {digits : List Nat} (hc : decimalValue? c = some d)
      (hrun : Writes run digits) : Writes (c :: run) (d :: digits)
  | underscore {c : Char} {d : Nat} {run : Text} {digits : List Nat}
      (hc : decimalValue? c = some d) (hrun : Writes run digits) :
      Writes (c :: '_' :: run) (d :: digits)

theorem ne_of_isDecimal {c mark : Char} (hmark : isDecimal mark = false)
    (hc : isDecimal c = true) : c ≠ mark := by
  rintro rfl
  rw [hc] at hmark
  cases hmark

section

variable {run : Text} {digits : List Nat}

theorem Writes.exists_cons (h : Writes run digits) :
    ∃ c rest, run = c :: rest ∧ isDecimal c = true := by
  cases h with
  | last hc | digit hc | underscore hc => exact ⟨_, _, rfl, isDecimal_of_decimalValue? hc⟩

theorem Writes.append_digit {c : Char} {d : Nat} (h : Writes run digits)
    (hc : decimalValue? c = some d) : Writes (run ++ [c]) (digits ++ [d]) := by
  induction h with
  | last hfirst => exact .digit hfirst (.last hc)
  | digit hfirst _ ih => exact .digit hfirst ih
  | underscore hfirst _ ih => exact .underscore hfirst ih

theorem Writes.isNumeralSpace_eq_false (h : Writes run digits) :
    ∀ c ∈ run, isNumeralSpace c = false := by
  have hdigit {c : Char} {d : Nat} (hc : decimalValue? c = some d) : isNumeralSpace c = false := by
    rw [isNumeralSpace, isSpace_eq_false_of_isDecimal (isDecimal_of_decimalValue? hc)]
    rfl
  have hunderscore : isNumeralSpace '_' = false := by decide
  induction h with
  | last hc => exact List.forall_mem_singleton.mpr (hdigit hc)
  | digit hc _ ih => exact List.forall_mem_cons.mpr ⟨hdigit hc, ih⟩
  | underscore hc _ ih =>
    exact List.forall_mem_cons.mpr ⟨hdigit hc, List.forall_mem_cons.mpr ⟨hunderscore, ih⟩⟩

theorem Writes.digits?_eq (h : Writes run digits) : digits? run = some digits := by
  induction h with
  | last hc => simp [digits?, hc]
  | @digit c d run digits hc hrun ih =>
    -- The reader looks for an underscore first, and a run does not start with one.
    obtain ⟨e, rest, rfl, he⟩ := hrun.exists_cons
    have hunderscore : e ≠ '_' := ne_of_isDecimal (by decide) he
    rw [digits?, hc, ih]
    · rfl
    · simp
    · rintro rest' ⟨⟩
      exact hunderscore rfl
  | underscore hc hrun ih =>
    rw [digits?, hc, ih]
    rfl

theorem writes_of_digits? (h : digits? run = some digits) : Writes run digits := by
  fun_induction digits? run generalizing digits with
  | case1 => cases h
  | case2 c =>
    obtain ⟨d, hc, rfl⟩ := Option.map_eq_some_iff.mp h
    exact .last hc
  | case3 c rest ih =>
    obtain ⟨d, hc, h⟩ := Option.bind_eq_some_iff.mp h
    obtain ⟨tail, hrest, h⟩ := Option.bind_eq_some_iff.mp h
    cases h
    exact .underscore hc (ih hrest)
  | case4 c rest _ _ ih =>
    obtain ⟨d, hc, h⟩ := Option.bind_eq_some_iff.mp h
    obtain ⟨tail, hrest, h⟩ := Option.bind_eq_some_iff.mp h
    cases h
    exact .digit hc (ih hrest)

end

/-! ### Digits and numbers -/

theorem foldl_digits (digits : List Nat) (n : Nat) :
    digits.foldl (fun n d => 10 * n + d) n =
      n * 10 ^ digits.length + Nat.ofDigits 10 digits.reverse := by
  induction digits generalizing n with
  | nil => simp
  | cons d digits ih =>
    rw [List.foldl_cons, ih, Nat.ofDigits_reverse_cons, List.length_cons, Nat.pow_succ]
    ring

theorem ofDigits_eq (digits : List Nat) : ofDigits digits = Nat.ofDigits 10 digits.reverse := by
  rw [ofDigits, foldl_digits, Nat.zero_mul, Nat.zero_add]

theorem decimalValue?_digitChar {d : Nat} (h : d < 10) :
    decimalValue? (Nat.digitChar d) = some d := by
  have hall : ∀ d < 10, decimalValue? (Nat.digitChar d) = some d := by decide
  exact hall d h

/-- A decimal numeral writes the digits of its number, and zero as one zero. -/
theorem writes_ofNat (n : Nat) :
    Writes (ofNat n) (List.replicate (if n = 0 then 1 else 0) 0 ++ (Nat.digits 10 n).reverse) := by
  induction n using Nat.strongRecOn with
  | ind n ih =>
    rw [ofNat, Nat.toDigits_eq_if (by decide)]
    split
    · next hlow =>
      have hdigits : List.replicate (if n = 0 then 1 else 0) 0 ++ (Nat.digits 10 n).reverse =
          [n] := by
        split
        · next hzero => simp [hzero]
        · next hzero => simp [Nat.digits_of_lt 10 n hzero hlow]
      rw [hdigits]
      exact .last (decimalValue?_digitChar hlow)
    · next hlow =>
      have hhigh := ih (n / 10) (Nat.div_lt_self (by omega) (by decide))
      rw [if_neg (by omega : ¬ n / 10 = 0)] at hhigh
      rw [if_neg (by omega : ¬ n = 0), Nat.digits_def' (by decide) (by omega), List.reverse_cons,
        ← List.append_assoc]
      exact hhigh.append_digit (decimalValue?_digitChar (Nat.mod_lt n (by decide)))

theorem unsigned?_of_writes {run : Text} {digits : List Nat} (h : Writes run digits)
    (hlength : digits.length ≤ 4300) : unsigned? run = some (Nat.ofDigits 10 digits.reverse) := by
  rw [unsigned?, h.digits?_eq]
  exact (if_pos hlength).trans (congrArg some (ofDigits_eq digits))

theorem exists_writes_of_unsigned? {run : Text} {n : Nat} (h : unsigned? run = some n) :
    ∃ digits, Writes run digits ∧ digits.length ≤ 4300 ∧ n = Nat.ofDigits 10 digits.reverse := by
  obtain ⟨digits, hdigits, h⟩ := Option.bind_eq_some_iff.mp h
  split at h
  · next hlength =>
    cases h
    exact ⟨digits, writes_of_digits? hdigits, hlength, ofDigits_eq digits⟩
  · cases h

/-! ### Signs -/

/-- What may stand before the digits of a numeral. -/
inductive Sign where
  | unsigned
  | plus
  | minus
  deriving DecidableEq, Repr

namespace Sign

/-- How the sign is written. -/
def text : Sign → Text
  | unsigned => []
  | plus => ['+']
  | minus => ['-']

/-- The number with the sign. -/
def apply : Sign → Nat → Int
  | minus, n => -n
  | unsigned, n | plus, n => n

theorem isNumeralSpace_eq_false (sign : Sign) : ∀ c ∈ sign.text, isNumeralSpace c = false := by
  cases sign with
  | unsigned => exact List.forall_mem_nil _
  | plus | minus => exact List.forall_mem_singleton.mpr (by decide)

end Sign

theorem exists_sign (text : Text) :
    ∃ (sign : Sign) (run : Text), text.trim isNumeralSpace = sign.text ++ run ∧
      int? text = (unsigned? run).map sign.apply := by
  rw [int?]
  split
  · next run hrun =>
    refine ⟨.minus, run, hrun, ?_⟩
    cases unsigned? run <;> rfl
  · next run hrun =>
    refine ⟨.plus, run, hrun, ?_⟩
    cases unsigned? run <;> rfl
  · refine ⟨.unsigned, text.trim isNumeralSpace, rfl, ?_⟩
    cases unsigned? (text.trim isNumeralSpace) <;> rfl

/-- A sign is told from a digit, so only one way to take a sign off leaves a run of digits. -/
theorem int?_of_writes {text run : Text} {digits : List Nat} {sign : Sign}
    (htrim : text.trim isNumeralSpace = sign.text ++ run) (hrun : Writes run digits) :
    int? text = (unsigned? run).map sign.apply := by
  have hfirst : ∀ c ∈ run.head?, c ≠ '-' ∧ c ≠ '+' := by
    obtain ⟨c, rest, rfl, hc⟩ := hrun.exists_cons
    rintro c ⟨⟩
    exact ⟨ne_of_isDecimal (by decide) hc, ne_of_isDecimal (by decide) hc⟩
  rw [int?, htrim]
  cases sign with
  | plus | minus => cases hn : unsigned? run <;> simp [Sign.text, Sign.apply, hn]
  | unsigned =>
    rw [Sign.text, List.nil_append]
    split
    · exact absurd rfl (hfirst '-' rfl).1
    · exact absurd rfl (hfirst '+' rfl).2
    · cases unsigned? run <;> rfl

/-! ### Numerals -/

/-- A signed decimal numeral as it is written, with at most 4300 digits. -/
structure Numeral where
  before : Text
  sign : Sign
  run : Text
  digits : List Nat
  after : Text
  space_before : ∀ c ∈ before, isNumeralSpace c
  writes : Writes run digits
  length_digits : digits.length ≤ 4300
  space_after : ∀ c ∈ after, isNumeralSpace c

namespace Numeral

/-- The numeral with the white space around it. -/
def text (numeral : Numeral) : Text :=
  numeral.before ++ (numeral.sign.text ++ numeral.run) ++ numeral.after

/-- The digits in base ten, with the sign. -/
def value (numeral : Numeral) : Int := numeral.sign.apply (Nat.ofDigits 10 numeral.digits.reverse)

theorem text_ne_nil (numeral : Numeral) : numeral.text ≠ [] := by
  obtain ⟨c, rest, hrun, -⟩ := numeral.writes.exists_cons
  simp [text, hrun]

theorem trim_text (numeral : Numeral) :
    numeral.text.trim isNumeralSpace = numeral.sign.text ++ numeral.run := by
  refine trim_append numeral.space_before (fun c hc => ?_) numeral.space_after
  rcases List.mem_append.mp hc with hc | hc
  · exact numeral.sign.isNumeralSpace_eq_false c hc
  · exact numeral.writes.isNumeralSpace_eq_false c hc

end Numeral

theorem int?_text (numeral : Numeral) : int? numeral.text = some numeral.value := by
  rw [int?_of_writes numeral.trim_text numeral.writes,
    unsigned?_of_writes numeral.writes numeral.length_digits]
  rfl

theorem exists_numeral_of_int? {text : Text} {n : Int} (h : int? text = some n) :
    ∃ numeral : Numeral, numeral.text = text ∧ numeral.value = n := by
  obtain ⟨sign, run, htrim, hint⟩ := exists_sign text
  rw [hint] at h
  obtain ⟨m, hm, rfl⟩ := Option.map_eq_some_iff.mp h
  obtain ⟨digits, hwrites, hlength, rfl⟩ := exists_writes_of_unsigned? hm
  obtain ⟨before, after, htext, hbefore, hafter⟩ := exists_append_trim isNumeralSpace text
  refine ⟨⟨before, sign, run, digits, after, hbefore, hwrites, hlength, hafter⟩, ?_, rfl⟩
  rw [Numeral.text, ← htrim, ← htext]

theorem int?_eq_none_iff {text : Text} :
    int? text = none ↔ ∀ numeral : Numeral, numeral.text ≠ text := by
  constructor
  · rintro h numeral rfl
    rw [int?_text] at h
    cases h
  · intro h
    rw [Option.eq_none_iff_forall_ne_some]
    intro n hn
    obtain ⟨numeral, htext, -⟩ := exists_numeral_of_int? hn
    exact h numeral htext

namespace Numeral

/-- The numeral has the sign of a number and its digits in base ten, after any zeros. -/
def Spells (numeral : Numeral) (n : Int) : Prop :=
  numeral.sign.apply n.natAbs = n ∧
    ∃ zeros, numeral.digits = List.replicate zeros 0 ++ (Nat.digits 10 n.natAbs).reverse

theorem Spells.value_eq {numeral : Numeral} {n : Int} (h : numeral.Spells n) :
    numeral.value = n := by
  obtain ⟨hsign, zeros, hdigits⟩ := h
  rw [value, hdigits, List.reverse_append, List.reverse_reverse, List.reverse_replicate,
    Nat.ofDigits_append_replicate_zero, Nat.ofDigits_digits, hsign]

theorem exists_spells {n : Int} (h : (Nat.digits 10 n.natAbs).length ≤ 4300) :
    ∃ numeral : Numeral, numeral.Spells n ∧ numeral.text = ofInt n := by
  obtain ⟨sign, hsign, htext⟩ : ∃ sign : Sign, sign.apply n.natAbs = n ∧
      ofInt n = sign.text ++ ofNat n.natAbs := by
    cases n with
    | ofNat n => exact ⟨.unsigned, rfl, rfl⟩
    | negSucc n => exact ⟨.minus, rfl, rfl⟩
  have hlength : (List.replicate (if n.natAbs = 0 then 1 else 0) 0 ++
      (Nat.digits 10 n.natAbs).reverse).length ≤ 4300 := by
    rw [List.length_append, List.length_replicate, List.length_reverse]
    split
    · next hzero =>
      rw [hzero]
      decide
    · omega
  have hnone : ∀ c ∈ ([] : Text), isNumeralSpace c := List.forall_mem_nil _
  refine ⟨⟨[], sign, ofNat n.natAbs, _, [], hnone, writes_ofNat n.natAbs, hlength, hnone⟩,
    ⟨hsign, _, rfl⟩, ?_⟩
  rw [text, htext, List.nil_append, List.append_nil]

end Numeral
end Lexical.Text
