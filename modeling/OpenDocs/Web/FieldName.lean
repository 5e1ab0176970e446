import OpenDocs.Text.Capital
import OpenDocs.Text.Cut

/-!
# Names of request fields

A field that is known by several words joined by underscores is written as one word in a request,
in which each word but the first begins with a capital.
-/

namespace OpenDocs.Web

def camelCase (name : String) : String :=
  match Text.cut '_' name.toList with
  | [] => ""
  | first :: rest => String.ofList (first ++ rest.flatMap Text.capitalize)

end OpenDocs.Web
