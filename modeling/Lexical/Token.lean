import Lexical.Text.Quoted

/-! Tokens: a kind and a text. The value of a string, character or multi-line string token is its
body without the quotes; a documentation comment keeps its delimiters; a newline token holds a
backslash and an `n`. Tokens are printed one per line, or as one JSON array that is indented by two
spaces. -/

namespace Lexical

/-- What a token is. Some kinds are set aside: no scan gives a token of them. -/
inductive Kind where
  | keyword
  | identifier
  | number
  | float
  | operator
  | whitespace
  | separator
  | string
  | character
  | comment
  | boolean
  | newline
  | special
  | documentation
  | template
  | multilineString
  | eof
  | unknown
  deriving DecidableEq, Repr

namespace Kind

/-- Every kind, in the order of their numbers. -/
def all : List Kind :=
  [keyword, identifier, number, float, operator, whitespace, separator, string, character, comment,
   boolean, newline, special, documentation, template, multilineString, eof, unknown]

/-- The name in capitals that prints and messages use. -/
def name : Kind → Text
  | keyword => "KEYWORD"
  | identifier => "IDENTIFIER"
  | number => "NUMBER"
  | float => "FLOAT"
  | operator => "OPERATOR"
  | whitespace => "WHITESPACE"
  | separator => "SEPARATOR"
  | string => "STRING"
  | character => "CHARACTER"
  | comment => "COMMENT"
  | boolean => "BOOLEAN"
  | newline => "NEWLINE"
  | special => "SPECIAL"
  | documentation => "JAVADOC"
  | template => "TEMPLATE"
  | multilineString => "MULTILINE_STRING"
  | eof => "EOF"
  | unknown => "UNKNOWN"

/-- The place of a kind among all kinds, counted from one. -/
def ordinal (kind : Kind) : Nat := all.idxOf kind + 1

/-- The kind with a name. -/
def ofName? (name : Text) : Option Kind := all.find? fun kind => kind.name = name

theorem name_injective {left right : Kind} (h : left.name = right.name) : left = right := by
  revert h; cases left <;> cases right <;> decide

@[simp] theorem ofName?_name (kind : Kind) : ofName? kind.name = some kind := by
  cases kind <;> decide

end Kind

/-- A kind and a text. -/
structure Token where
  kind : Kind
  value : Text
  deriving DecidableEq, Repr

namespace Token

/-- The words that are no identifiers. -/
def keywords : List Text := ["else", "false", "for", "if", "true", "while"]

/-- The operators, of one character or two. -/
def operators : List Text :=
  ["!=", "*", "+", "++", "-", "--", "/", "<", "<=", "=", "==", ">", ">="]

/-- The characters that are separators. -/
def separators : List Char := ['(', ')', ',', ';', '[', ']', '\x7b', '\x7d']

/-- The characters that are special symbols. -/
def specials : List Char := ['#', '$', '@']

/-- The value of every newline token. -/
def newlineValue : Text := ['\\', 'n']

/-- The token of every newline. -/
def newline : Token := ⟨.newline, newlineValue⟩

/-- The token that ends every scan. -/
def eof : Token := ⟨.eof, "EOF"⟩

/-- A run of letters and digits is a keyword or an identifier. -/
def ofWord (word : Text) : Token := ⟨if word ∈ keywords then .keyword else .identifier, word⟩

/-- A run of digits and dots is a float as soon as it has a dot. -/
def ofNumeral (numeral : Text) : Token := ⟨if '.' ∈ numeral then .float else .number, numeral⟩

/-! ### Printed tokens -/

/-- A token as it is printed on a line: its kind, and its value quoted. -/
def render (token : Token) : Text :=
  "Token(" ++ token.kind.name ++ ", " ++ token.value.quoted ++ ")"

/-- One token on each line. -/
def renderLines (tokens : List Token) : Text := .ofLines (tokens.map render)

/-- A token as a JSON object over four lines. -/
def renderObject (token : Token) : Text :=
  "  \x7b\n    \"type\": " ++ token.kind.name.jsonString ++
    ",\n    \"value\": " ++ token.value.jsonString ++ "\n  \x7d"

/-- The objects between brackets, one after the other. -/
def renderJson : List Token → Text
  | [] => "[]"
  | tokens => "[\n" ++ List.intercalate [',', '\n'] (tokens.map renderObject) ++ "\n]"

/-- All tokens in one of the two forms. -/
def renderAll (json : Bool) (tokens : List Token) : Text :=
  if json then renderJson tokens else renderLines tokens

end Token
end Lexical
