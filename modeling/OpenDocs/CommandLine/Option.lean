import OpenDocs.Text.Classes

/-!
# Options

An option is spelled in full or by the beginning of its name, if no other option begins so. An
equals sign may join it with its value.
-/

namespace OpenDocs.CommandLine

inductive Opt where
  | help | host | port | root | assetsDir | diffDir | textSource | settingsPath | debug
  | dumpSettings
  deriving DecidableEq

namespace Opt

def spellings : Opt → List String
  | help => ["-h", "--help"]
  | host => ["--host"]
  | port => ["--port"]
  | root => ["--root"]
  | assetsDir => ["--assets-dir"]
  | diffDir => ["--diff-dir"]
  | textSource => ["--text-source"]
  | settingsPath => ["--settings-path"]
  | debug => ["--debug"]
  | dumpSettings => ["--dump-settings"]

def all : List Opt :=
  [help, host, port, root, assetsDir, diffDir, textSource, settingsPath, debug, dumpSettings]

def table : List (String × Opt) := all.flatMap fun o => o.spellings.map (·, o)

/-- Whether a value belongs to the option. -/
def takesValue : Opt → Bool
  | help | debug | dumpSettings => false
  | _ => true

/-- How messages call the option. -/
def title (o : Opt) : String := "/".intercalate o.spellings

end Opt

/-- What a word of the command line is taken for. -/
inductive Item where
  | plain (word : String)
  | separator
  /-- With the value that an equals sign joins to it. -/
  | option (o : Opt) (value : Option String)
  /-- A short option with letters that follow at once. -/
  | letters (o : Opt) (rest : List Char)
  | unknown (word : String)

/-- The parts before and after the first equals sign. -/
def cutValue (word : List Char) : List Char × Option String :=
  match word.dropWhile (· != '=') with
  | [] => (word, none)
  | _ :: value => (word.takeWhile (· != '='), some (String.ofList value))

/-- A negative number: digits, or digits around a point of which those before it may be missing. -/
def isNegativeNumber (word : List Char) : Bool :=
  match word with
  | '-' :: rest =>
    let isDigit (c : Char) := (Text.digitValue? c).isSome
    let whole := rest.takeWhile isDigit
    let ends (cs : List Char) := cs.isEmpty || cs == ['\n']
    match rest.dropWhile isDigit with
    | '.' :: rest => !(rest.takeWhile isDigit).isEmpty && ends (rest.dropWhile isDigit)
    | rest => !whole.isEmpty && ends rest
  | _ => false

/-- The options that a word may stand for, each as it is spelled in full. -/
def candidates (word : List Char) : List (String × Item) :=
  match word with
  | '-' :: '-' :: _ =>
    let (start, value) := cutValue word
    (Opt.table.filter fun (spelling, _) => start.isPrefixOf spelling.toList).map
      fun (spelling, o) => (spelling, .option o value)
  | _ =>
    Opt.table.filterMap fun (spelling, o) =>
      if spelling.toList == word.take 2 then some (spelling, .letters o (word.drop 2))
      else if word.isPrefixOf spelling.toList then some (spelling, .option o none)
      else none

/-- What a word is taken for, or the options that it could be. -/
def classify (word : String) : Except (List String) Item :=
  let cs := word.toList
  if cs.head? != some '-' then .ok (.plain word)
  else
    match Opt.table.lookup word with
    | some o => .ok (.option o none)
    | none =>
      if cs.length = 1 then .ok (.plain word)
      else
        let (start, value) := cutValue cs
        match value, Opt.table.lookup (String.ofList start) with
        | some value, some o => .ok (.option o (some value))
        | _, _ =>
          match candidates cs with
          | [(_, item)] => .ok item
          | [] =>
            if isNegativeNumber cs || cs.contains ' ' then .ok (.plain word)
            else .ok (.unknown word)
          | several => .error (several.map (·.1))

end OpenDocs.CommandLine
