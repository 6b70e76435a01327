import Lexical.Text

/-! A named source and the places in it. Lines and columns count from one, and only a newline ends a
line. -/

namespace Lexical

/-- A place in a named source. It need not be one that the source has. -/
structure Location where
  filename : Text
  line : Int
  column : Int
  deriving DecidableEq, Repr

/-- A location is told with colons between its parts. -/
def Location.render (location : Location) : Text :=
  location.filename ++ ":" ++ .ofInt location.line ++ ":" ++ .ofInt location.column

/-- A text and the name that messages give it. -/
structure Source where
  name : Text
  text : Text
  deriving DecidableEq, Repr

namespace Source

/-- The text before an offset. An offset past the end stands for the end, a negative one is taken
from the end. -/
def upTo (source : Source) (offset : Int) : Text :=
  source.text.take (if offset < 0 then source.text.length + offset else offset).toNat

/-- The part of a text after its last newline. -/
def lastLine (text : Text) : Text := (text.reverse.takeWhile (· != '\n')).reverse

/-- The place of an offset. The column is counted from the start of the line that the text before
the offset ends in; it is not positive when the offset is negative. -/
def location (source : Source) (offset : Int) : Location where
  filename := source.name
  line := (source.upTo offset).count '\n' + 1
  column := min offset source.text.length -
    ((source.upTo offset).length - (lastLine (source.upTo offset)).length : Nat) + 1

/-- The text of the line that holds an offset. -/
def line (source : Source) (offset : Int) : Text :=
  lastLine (source.upTo offset) ++
    (source.text.drop (source.upTo offset).length).takeWhile (· != '\n')

end Source
end Lexical
