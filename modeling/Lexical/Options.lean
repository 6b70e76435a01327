import Lexical.Text.Numeral
import Lexical.Text.Quoted

/-! Options of a scan, and how the settings of the environment give them. -/

namespace Lexical

/-- How a source is scanned and diagnosed. -/
structure Options where
  /-- Reads a triple quote as strings. -/
  legacy : Bool := false
  /-- The most errors that a diagnosis keeps; none if it is not positive. -/
  errorLimit : Int := 100
  deriving DecidableEq, Repr

/-- The settings of the environment as they are written there. -/
structure Settings where
  legacyDispatch : Option Text := none
  maxErrors : Option Text := none
  deriving DecidableEq, Repr

namespace Settings

/-- An empty setting counts as missing. -/
def given (setting : Option Text) : Option Text := setting.filter (· ≠ [])

/-- The words that switch a setting on, in any case. -/
def onWords : List Text := ["1", "true", "yes", "on"]

/-- White space around the word does not count. -/
def isOn (text : Text) : Bool := (text.trim Text.isSpace).lowercase ∈ onWords

/-- The legacy order is switched on. -/
def legacy (settings : Settings) : Bool := (given settings.legacyDispatch).any isOn

/-- The limit, if it is given as a numeral. -/
def errorLimit? (settings : Settings) : Option Int := (given settings.maxErrors).bind Text.int?

/-- The options that the settings give. What is not given, or given wrongly, is as ever. -/
def options (settings : Settings) : Options :=
  { legacy := settings.legacy, errorLimit := settings.errorLimit?.getD ({} : Options).errorLimit }

/-- A limit that is no numeral is passed over with a warning. -/
def warnings (settings : Settings) : List Text :=
  match given settings.maxErrors with
  | some text =>
    if (Text.int? text).isSome then []
    else ["Ignoring invalid JPP_MAX_ERRORS value " ++ text.quoted]
  | none => []

end Settings
end Lexical
