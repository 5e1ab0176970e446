import OpenDocs.Disk.Path
import OpenDocs.Text.Case

/-!
# File names

A label is turned into a file name that is safe in any directory. A file's name tells the language
of its text.
-/

namespace OpenDocs.Disk

/-- ASCII letters and digits, dot, underscore and hyphen. -/
def isSafe (c : Char) : Bool := c.isAlphanum || c == '.' || c == '_' || c == '-'

def isEdge (c : Char) : Bool := c == '.' || c == '_'

/-- The text without dots and underscores at either end. -/
def trimEdges (cs : List Char) : List Char :=
  (((cs.dropWhile isEdge).reverse).dropWhile isEdge).reverse

/-- A name for a file about what the label names. -/
def safeName (label : String) : String :=
  let name := trimEdges (label.toList.map fun c => if isSafe c then c else '_')
  if name.isEmpty then "untitled" else String.ofList name

def languagesBySuffix : List (String × String) :=
  [(".md", "markdown"), (".markdown", "markdown"), (".txt", "plain_text"), (".text", "plain_text"),
    (".json", "json"), (".yaml", "yaml"), (".yml", "yaml"), (".html", "html"), (".htm", "html"),
    (".xml", "xml"), (".py", "python"), (".pyi", "python"), (".js", "javascript"),
    (".ts", "typescript"), (".css", "css"), (".rst", "restructuredtext"), (".toml", "toml")]

/-- The language that a path's suffix, in lower case, stands for. -/
def languageOf (p : Path) : String :=
  (languagesBySuffix.lookup (Text.toLower p.suffix)).getD "plain_text"

end OpenDocs.Disk
