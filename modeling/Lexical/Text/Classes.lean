import Lexical.Text.Decimal
import Lexical.Text.Letter

/-! White space, and what tells it from letters and decimal digits: the three classes have no
character in common. A blank is white space other than a newline. -/

namespace Lexical.Text

/-- White space, in ascending order. -/
def spaces : Ranges :=
  [(0x9, 0xD), (0x1C, 0x20), (0x85, 0x85), (0xA0, 0xA0), (0x1680, 0x1680), (0x2000, 0x200A),
   (0x2028, 0x2029), (0x202F, 0x202F), (0x205F, 0x205F), (0x3000, 0x3000)]

/-- White space. A newline belongs to it. -/
def isSpace (c : Char) : Bool := spaces.has c

/-- White space within a line. -/
def isBlank (c : Char) : Bool := c != '\n' && isSpace c

theorem isSpace_of_isBlank {c : Char} (h : isBlank c = true) : isSpace c = true := by
  simp_all [isBlank]

theorem isSpace_eq_false_of_isLetter {c : Char} (h : isLetter c = true) : isSpace c = false := by
  have hapart : letters.apartFrom 0 spaces := by decide +kernel
  exact Ranges.not_has_of_apartFrom hapart h

theorem isSpace_eq_false_of_isDecimal {c : Char} (h : isDecimal c = true) : isSpace c = false := by
  have hapart : decimals.apartFrom 0 spaces := by decide +kernel
  exact Ranges.not_has_of_apartFrom hapart h

theorem isLetter_eq_false_of_isDecimal {c : Char} (h : isDecimal c = true) :
    isLetter c = false := by
  have hapart : decimals.apartFrom 0 letters := by decide +kernel
  exact Ranges.not_has_of_apartFrom hapart h

theorem isBlank_eq_false {c : Char} (h : isSpace c = false) : isBlank c = false := by
  rw [isBlank, h, Bool.and_false]

theorem ne_newline {c : Char} (h : isSpace c = false) : c ≠ '\n' := by
  rintro rfl
  have hnewline : isSpace '\n' = true := by decide
  rw [h] at hnewline
  cases hnewline

end Lexical.Text
