import Lexical.Text.Classes

/-! Signed decimal numerals. Digits may come from any script and be mixed; a single underscore may
stand between two digits; white space may stand around the numeral. -/

namespace Lexical.Text

/-- The most digits that a numeral may have, leading zeros included. -/
def maxDigits : Nat := 4300

/-- White space around a numeral: all but the four information separators. -/
def isNumeralSpace (c : Char) : Bool := isSpace c && !(0x1C ≤ c.toNat && c.toNat ≤ 0x1F)

/-- The values of a non-empty run of digits. -/
def digits? : Text → Option (List Nat)
  | [] => none
  | [c] => (decimalValue? c).map ([·])
  | c :: '_' :: rest => do return (← decimalValue? c) :: (← digits? rest)
  | c :: rest => do return (← decimalValue? c) :: (← digits? rest)

/-- The number that digits spell in base ten. -/
def ofDigits (digits : List Nat) : Nat := digits.foldl (fun n d => 10 * n + d) 0

/-- The number of a run of digits, unless it is too long. -/
def unsigned? (text : Text) : Option Nat := do
  let digits ← digits? text
  if digits.length ≤ maxDigits then some (ofDigits digits) else none

/-- The number of a numeral. Nothing may stand between the sign and the digits. -/
def int? (text : Text) : Option Int :=
  match text.trim isNumeralSpace with
  | '-' :: numeral => (unsigned? numeral).map fun n => -(n : Int)
  | '+' :: numeral => (unsigned? numeral).map fun n => (n : Int)
  | numeral => (unsigned? numeral).map fun n => (n : Int)

end Lexical.Text
