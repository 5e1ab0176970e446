import OpenDocs.Json.Basic

/-!
# Settings

Settings give every field a value. A file may hold any JSON for a field, so no value is refused
here.
-/

namespace OpenDocs

inductive Settings.Field where
  | host | port | corsOrigins | corsMethods | corsHeaders | assetsDir | diffDir | textSource
  | maxSymbolDepth | debugLogging | logDir
  deriving DecidableEq

namespace Settings.Field

def all : List Field :=
  [host, port, corsOrigins, corsMethods, corsHeaders, assetsDir, diffDir, textSource,
    maxSymbolDepth, debugLogging, logDir]

def name : Field → String
  | host => "host"
  | port => "port"
  | corsOrigins => "cors_origins"
  | corsMethods => "cors_methods"
  | corsHeaders => "cors_headers"
  | assetsDir => "assets_dir"
  | diffDir => "diff_dir"
  | textSource => "text_source"
  | maxSymbolDepth => "max_symbol_depth"
  | debugLogging => "debug_logging"
  | logDir => "log_dir"

def named? (name : String) : Option Field := all.find? (·.name == name)

theorem named?_name (f : Field) : named? f.name = some f := by cases f <;> decide

def initial : Field → Json
  | host => .text "127.0.0.1"
  | port => .int 3000
  | corsOrigins => Json.texts ["https://chat.openai.com"]
  | corsMethods => Json.texts ["GET", "POST", "OPTIONS"]
  | corsHeaders =>
    Json.texts ["content-type", "openai-conversation-id", "openai-ephemeral-user-id"]
  | assetsDir | diffDir | logDir => .null
  | textSource => .text "buffer"
  | maxSymbolDepth => .int 256
  | debugLogging => .bool false

end Settings.Field

structure Settings where
  value : Settings.Field → Json

namespace Settings

def initial : Settings := ⟨Field.initial⟩

def set (s : Settings) (f : Field) (v : Json) : Settings :=
  ⟨fun g => if g = f then v else s.value g⟩

theorem value_set (s : Settings) (f g : Field) (v : Json) :
    (s.set f v).value g = if g = f then v else s.value g := rfl

/-- Sets the fields that are named, the last value of one winning. Other names are passed over. -/
def setNamed (s : Settings) (values : List (String × Json)) : Settings :=
  values.foldl (fun s (name, v) =>
    match Field.named? name with
    | some f => s.set f v
    | none => s) s

def report (s : Settings) : Json := .record (Field.all.map fun f => (f.name, s.value f))

end Settings

end OpenDocs
