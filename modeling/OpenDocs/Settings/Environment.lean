import OpenDocs.Settings.Field
import OpenDocs.Text.Case
import OpenDocs.Text.Cut
import OpenDocs.Text.Integer

/-!
# Settings from environment variables

Most fields have a variable of their own. Its value is a text, a truth value, an integer or a list,
by the field; where no integer is to be had from it, the variable counts as unset. A value that is
not encoded in UTF-8 is a torn text.
-/

namespace OpenDocs.Settings

abbrev Environment := List (String × String)

/-- Variables with any values, torn ones too. -/
abbrev Variables := List (String × List Text.Point)

def Environment.variables (env : Environment) : Variables :=
  env.map fun (name, value) => (name, Text.points value)

/-- How the value of a variable is read. -/
inductive Reading where
  | text
  | truth
  | integer
  | items

def trueWords : List String := ["1", "true", "yes", "on", "debug"]

def stripped (s : String) : String := String.ofList (Text.strip s.toList)

namespace Reading

/-- A torn text spells no word and no integer. -/
def read? (value : List Text.Point) : Reading → Option Json
  | text => some (.ofPoints value)
  | truth =>
    let isTrue (s : String) : Bool := trueWords.contains (Text.toLower (stripped s))
    some (.bool (((Text.whole? value).map isTrue).getD false))
  | integer => ((Text.whole? value).bind Text.readInteger?).map .int
  | items =>
    let parts := (Text.cut (.char ',') value).map (Text.trimPoints Text.isBlank)
    some (.list ((parts.filter (!·.isEmpty)).map .ofPoints))

end Reading

/-- The variables in the order in which they are looked at. -/
def environmentVariables : List (String × Field × Reading) :=
  [("TABBRIDGE_HOST", .host, .text), ("TABBRIDGE_ASSETS_DIR", .assetsDir, .text),
    ("TABBRIDGE_DIFF_DIR", .diffDir, .text), ("TABBRIDGE_TEXT_SOURCE", .textSource, .text),
    ("TABBRIDGE_LOG_DIR", .logDir, .text), ("TABBRIDGE_DEBUG_LOGGING", .debugLogging, .truth),
    ("TABBRIDGE_PORT", .port, .integer), ("TABBRIDGE_MAX_SYMBOL_DEPTH", .maxSymbolDepth, .integer),
    ("TABBRIDGE_CORS_ORIGINS", .corsOrigins, .items)]

/-- The fields that the variables set. -/
def Variables.overrides (env : Variables) : List (String × Json) :=
  environmentVariables.filterMap fun (variable_, field, reading) => do
    let v ← reading.read? (← env.lookup variable_)
    pure (field.name, v)

/-- The variables whose value cannot be read, with that value. -/
def Variables.misread (env : Variables) : List (String × List Text.Point) :=
  environmentVariables.filterMap fun (variable_, _, reading) => do
    let value ← env.lookup variable_
    if (reading.read? value).isNone then some (variable_, value) else none

end OpenDocs.Settings
