import Lexical.Text.Printable

/-! Quoted text: a text between two delimiters in which every character that could be mistaken for a
delimiter or that has no printed form is escaped. A JSON string is one too, in ASCII only. -/

namespace Lexical.Text

/-- The apostrophe, unless the text has one and has no quotation mark. -/
def delimiter (text : Text) : Char :=
  if '\x27' ∈ text ∧ '\x22' ∉ text then '\x22' else '\x27'

/-- The shortest of the three numeric escapes that fits. -/
def numericEscape (c : Char) : Text :=
  if c.toNat < 0x100 then '\\' :: 'x' :: hex 2 c.toNat
  else if c.toNat < 0x10000 then '\\' :: 'u' :: hex 4 c.toNat
  else '\\' :: 'U' :: hex 8 c.toNat

/-- How a character is written between delimiters. -/
def escape (delimiter c : Char) : Text :=
  if c = delimiter ∨ c = '\\' then ['\\', c]
  else if c = '\n' then ['\\', 'n']
  else if c = '\r' then ['\\', 'r']
  else if c = '\t' then ['\\', 't']
  else if isPrintable c then [c]
  else numericEscape c

/-- The text between delimiters that suit it. -/
def quoted (text : Text) : Text :=
  delimiter text :: text.flatMap (escape (delimiter text)) ++ [delimiter text]

/-! ### JSON strings -/

/-- A unit of a UTF-16 form, in four hexadecimal digits. -/
def unicodeEscape (unit : Nat) : Text := '\\' :: 'u' :: hex 4 unit

/-- How a character is written in a JSON string. One above U+FFFF is written as the two units of its
UTF-16 form. -/
def jsonEscape (c : Char) : Text :=
  if c = '\x22' then ['\\', '\x22']
  else if c = '\\' then ['\\', '\\']
  else if c = '\n' then ['\\', 'n']
  else if c = '\r' then ['\\', 'r']
  else if c = '\t' then ['\\', 't']
  else if c = '\x0c' then ['\\', 'f']
  else if c = '\x08' then ['\\', 'b']
  else if 0x20 ≤ c.toNat ∧ c.toNat ≤ 0x7E then [c]
  else if c.toNat < 0x10000 then unicodeEscape c.toNat
  else
    unicodeEscape (0xD800 + (c.toNat - 0x10000) / 0x400) ++
      unicodeEscape (0xDC00 + (c.toNat - 0x10000) % 0x400)

/-- The text as a JSON string. -/
def jsonString (text : Text) : Text := '\x22' :: text.flatMap jsonEscape ++ ['\x22']

end Lexical.Text
