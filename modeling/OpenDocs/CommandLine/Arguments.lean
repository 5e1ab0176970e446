import OpenDocs.CommandLine.Option
import OpenDocs.Tabs.Editor
import OpenDocs.Text.Integer
import OpenDocs.Text.Quoted

/-!
# Arguments of the command

Files stand together, before, between or after the options. All words after two hyphens are files.
-/

namespace OpenDocs.CommandLine

structure Arguments where
  files : List String
  host : Option String
  port : Option Int
  root : Option String
  assetsDir : Option String
  diffDir : Option String
  textSource : Option String
  settingsPath : Option String
  debug : Bool
  dumpSettings : Bool

def Arguments.none : Arguments :=
  ⟨[], .none, .none, .none, .none, .none, .none, .none, false, false⟩

inductive Misuse where
  | ambiguous (word : String) (spellings : List String)
  | valueExpected (o : Opt)
  | valueIgnored (o : Opt) (value : String)
  | notInteger (o : Opt) (value : String)
  | noChoice (o : Opt) (value : String) (choices : List String)
  | unrecognized (words : List String)

def Misuse.message : Misuse → String
  | ambiguous word spellings =>
    s!"ambiguous option: {word} could match " ++ ", ".intercalate spellings
  | valueExpected o => s!"argument {o.title}: expected one argument"
  | valueIgnored o value => s!"argument {o.title}: ignored explicit argument {Text.quote value}"
  | notInteger o value => s!"argument {o.title}: invalid int value: {Text.quote value}"
  | noChoice o value choices =>
    s!"argument {o.title}: invalid choice: {Text.quote value} "
      ++ "(choose from " ++ ", ".intercalate (choices.map Text.quote) ++ ")"
  | unrecognized words => "unrecognized arguments: " ++ " ".intercalate words

/-- Why there are no arguments to go by. -/
inductive Refusal where
  | misuse (m : Misuse)
  /-- Help is asked for. -/
  | help

/-- Where the files are: still to come, being gathered, or complete. -/
inductive FileStage where
  | toCome
  | gathering
  | complete
  deriving DecidableEq

structure Reading where
  arguments : Arguments
  stage : FileStage
  /-- Words that nothing is made of. -/
  extra : List String

namespace Reading

/-- An option ends the files. -/
def endFiles (r : Reading) : Reading :=
  if r.stage = .gathering then { r with stage := .complete } else r

def addWord (r : Reading) (word : String) : Reading :=
  if r.stage = .complete then { r with extra := r.extra ++ [word] }
  else { r with
    arguments := { r.arguments with files := r.arguments.files ++ [word] }
    stage := .gathering }

def addSeparator (r : Reading) : Reading :=
  if r.stage = .complete then { r with extra := r.extra ++ ["--"] }
  else { r with stage := .gathering }

end Reading

def sourceNames : List String := [Tabs.TextSource.buffer.name, Tabs.TextSource.disk.name]

namespace Arguments

/-- Gives an option its value. -/
def setValue (a : Arguments) (o : Opt) (value : String) : Except Misuse Arguments :=
  match o with
  | .host => .ok { a with host := some value }
  | .port =>
    match Text.readInteger? value with
    | some n => .ok { a with port := some n }
    | Option.none => .error (.notInteger o value)
  | .root => .ok { a with root := some value }
  | .assetsDir => .ok { a with assetsDir := some value }
  | .diffDir => .ok { a with diffDir := some value }
  | .textSource =>
    if sourceNames.contains value then .ok { a with textSource := some value }
    else .error (.noChoice o value sourceNames)
  | .settingsPath => .ok { a with settingsPath := some value }
  | .help | .debug | .dumpSettings => .ok a

def setFlag (a : Arguments) (o : Opt) : Except Refusal Arguments :=
  match o with
  | .help => .error .help
  | .debug => .ok { a with debug := true }
  | .dumpSettings => .ok { a with dumpSettings := true }
  | _ => .ok a

end Arguments

/-- What comes of the letters after the option for help. They would be further short options, of
which there is none but this one. -/
def refusalOf : List Char → Refusal
  | '-' :: rest => .misuse (.valueIgnored .help (String.ofList ('-' :: rest)))
  | 'h' :: '=' :: value => .misuse (.valueIgnored .help (String.ofList value))
  | 'h' :: rest => refusalOf rest
  | _ => .help

/-- Takes the words one after the other. -/
def take (r : Reading) : List Item → Except Refusal Reading
  | [] => .ok r
  | .plain word :: rest => take (r.addWord word) rest
  | .separator :: rest => take r.addSeparator rest
  | .unknown word :: rest => take { r.endFiles with extra := r.extra ++ [word] } rest
  | .option o none :: rest =>
    if o.takesValue then
      match rest with
      | .plain value :: rest => do
        let arguments ← (r.arguments.setValue o value).mapError .misuse
        take { r.endFiles with arguments } rest
      | _ => .error (.misuse (.valueExpected o))
    else do
      let arguments ← r.arguments.setFlag o
      take { r.endFiles with arguments } rest
  | .option o (some value) :: rest =>
    if o.takesValue then do
      let arguments ← (r.arguments.setValue o value).mapError .misuse
      take { r.endFiles with arguments } rest
    else .error (.misuse (.valueIgnored o value))
  | .letters _ rest :: _ => .error (refusalOf rest)

/-- What each word is taken for. -/
def items : List String → Except Misuse (List Item)
  | [] => .ok []
  | "--" :: rest => .ok (.separator :: rest.map .plain)
  | word :: rest =>
    match classify word with
    | .error spellings => .error (.ambiguous word spellings)
    | .ok item => do
      let more ← items rest
      pure (item :: more)

def Arguments.ofWords (words : List String) : Except Refusal Arguments := do
  let items ← (items words).mapError .misuse
  let r ← take ⟨.none, .toCome, []⟩ items
  if r.extra.isEmpty then pure r.arguments else throw (.misuse (.unrecognized r.extra))

end OpenDocs.CommandLine
