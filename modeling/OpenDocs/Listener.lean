/-!
# Listeners

Listeners are told of news in turn. One may refuse a piece of news, and then those after it are not
told.
-/

namespace OpenDocs

structure Listener (News : Type) where
  name : String
  refuses : News → Bool

/-- Who is told, in order, and the last of them if it refuses. -/
def tell {News : Type} (news : News) : List (Listener News) → List String × Option String
  | [] => ([], none)
  | l :: rest =>
    if l.refuses news then ([l.name], some l.name)
    else
      let (told, refused) := tell news rest
      (l.name :: told, refused)

end OpenDocs
