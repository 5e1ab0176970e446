import OpenDocs.Disk.Path
import OpenDocs.Encoding.Scheme
import OpenDocs.Text.Quoted

/-!
# A disk as one process sees it

Every entry is a directory or a file and is known by the names that lead to it from the outermost
directory, which is always there. There are no links, so the entry that a path leads to is found by
walking along its names. What the process may not do is told of single files only: it may enter and
change every directory.
-/

namespace OpenDocs

namespace Disk

inductive Entry where
  | directory
  | file (bytes : List UInt8)
  deriving DecidableEq

/-- Why a path does not lead where it should. -/
inductive Flaw where
  | missing
  | refused
  | busy
  | present
  | notDirectory
  | isDirectory
  | nameTooLong
  deriving DecidableEq

def Flaw.number : Flaw → Nat
  | missing => 2
  | refused => 13
  | busy => 16
  | present => 17
  | notDirectory => 20
  | isDirectory => 21
  | nameTooLong => 36

def Flaw.text : Flaw → String
  | missing => "No such file or directory"
  | refused => "Permission denied"
  | busy => "Device or resource busy"
  | present => "File exists"
  | notDirectory => "Not a directory"
  | isDirectory => "Is a directory"
  | nameTooLong => "File name too long"

inductive Fault where
  | access (flaw : Flaw) (path : String)
  | nulInPath
  /-- The path begins at the home of a user who is not known. -/
  | noHome
  | encoding (refusal : Encoding.Refusal)
  deriving DecidableEq

def Fault.message : Fault → String
  | access flaw path => s!"[Errno {flaw.number}] {flaw.text}: {Text.quote path}"
  | nulInPath => "embedded null byte"
  | noHome => "Could not determine home directory."
  | encoding refusal =>
    match refusal with
    | .unknownScheme name => s!"unknown encoding: {name}"
    | .unknownPolicy name => s!"unknown error handler name {Text.quote name}"
    | .unfitPolicy name => s!"the error handler {name} cannot be used for reading"
    | .undecodable flaw => flaw.message
    | .unencodable c => s!"no bytes stand for {Text.quote c.toString}"
    | .surrogate => "surrogates not allowed"
    | .badLabel => "label empty or too long"

end Disk

structure Disk where
  entries : List (List String × Disk.Entry)
  /-- Where paths without a leading slash begin. -/
  working : List String
  home : Disk.Path
  /-- The directory for files that are soon given up. -/
  temporary : Disk.Path
  /-- The homes of the users who are known, each by a tilde with the user's name behind it. -/
  users : List (String × Disk.Path)
  /-- Where files lie that may not be opened. -/
  sealed : List (List String)
  deriving DecidableEq

namespace Disk

def lookup (d : Disk) (at_ : List String) : Option Entry :=
  if at_.isEmpty then some .directory else d.entries.lookup at_

def remove (d : Disk) (at_ : List String) : Disk :=
  { d with entries := d.entries.filter (·.1 != at_), sealed := d.sealed.filter (· != at_) }

/-- Puts an entry in place of the one that is there, or beside the others. It may be opened. -/
def put (d : Disk) (at_ : List String) (e : Entry) : Disk :=
  { d.remove at_ with entries := (d.remove at_).entries ++ [(at_, e)] }

theorem lookup_filter_ne (a b : List String) (es : List (List String × Entry)) :
    (es.filter (·.1 != a)).lookup b = if b = a then none else es.lookup b := by
  induction es with
  | nil => simp
  | cons e es ih => grind

theorem lookup_remove (d : Disk) (a b : List String) :
    (d.remove a).lookup b = if b = a ∧ b ≠ [] then none else d.lookup b := by
  cases b <;> simp [lookup, remove, lookup_filter_ne]

theorem lookup_put (d : Disk) (a b : List String) (e : Entry) :
    (d.put a e).lookup b = if b = a ∧ b ≠ [] then some e else d.lookup b := by
  cases b with
  | nil => simp [lookup]
  | cons x xs =>
    simp only [lookup, put, remove, List.lookup_append, lookup_filter_ne, List.lookup_cons,
      List.lookup_nil]
    grind

/-- A name has at most 255 bytes. -/
def isTooLong (name : String) : Bool := 255 < Encoding.Utf8.size name

/-- Goes on from a place along some names, each looked up in a directory. Only the last may be
missing there. -/
def walk (d : Disk) (here : List String) : List String → Except Flaw (List String)
  | [] => .ok here
  | name :: rest =>
    match d.lookup here with
    | none => .error .missing
    | some (.file _) => .error .notDirectory
    | some .directory =>
      if name = ".." then d.walk here.dropLast rest
      else if isTooLong name then .error .nameTooLong
      else d.walk (here ++ [name]) rest

/-- A path has less than 4096 bytes. -/
def locate (d : Disk) (p : Path) : Except Fault (List String) :=
  if p.hasNul then .error .nulInPath
  else if 4096 ≤ Encoding.Utf8.size p.text then .error (.access .nameTooLong p.text)
  else (d.walk (if p.isAbsolute then [] else d.working) p.names).mapError (.access · p.text)

/-- The entry that a path leads to. -/
def find (d : Disk) (p : Path) : Except Fault Entry := do
  match d.lookup (← d.locate p) with
  | some e => pure e
  | none => throw (.access .missing p.text)

/-- The entry that a path leads to, if it leads anywhere. -/
def find? (d : Disk) (p : Path) : Except Fault (Option Entry) :=
  match d.find p with
  | .ok e => .ok (some e)
  | .error .nulInPath | .error (.access .missing _) | .error (.access .notDirectory _) => .ok none
  | .error f => .error f

def isDirectory (d : Disk) (p : Path) : Bool := d.find p matches .ok .directory

def isSealed (d : Disk) (p : Path) : Bool :=
  match d.locate p with
  | .ok at_ => d.sealed.contains at_
  | .error _ => false

def readBytes (d : Disk) (p : Path) : Except Fault (List UInt8) := do
  match ← d.find p with
  | .file bytes => if d.isSealed p then throw (.access .refused p.text) else pure bytes
  | .directory => throw (.access .isDirectory p.text)

/-- Reads a file in a scheme, or in the one that its bytes suggest. -/
def readText (d : Disk) (p : Path) (scheme? : Option String) (policy : String) :
    Except Fault (List Char) := do
  (Encoding.textOf (← d.readBytes p) scheme? policy).mapError .encoding

/-! Paths that begin at a home -/

/-- Whether a path begins with a tilde. -/
def Path.isTilded (p : Path) : Bool :=
  !p.isAbsolute && p.names.head?.any (·.toList.head? == some '~')

/-- The home that a tilde stands for; with a name behind it, that user's. -/
def homeOf (d : Disk) (name : String) : Except Fault Path :=
  if name = "~" then .ok d.home
  else if name.toList.contains '\x00' then .error .nulInPath
  else match d.users.lookup name with
    | some home => .ok home
    | none => .error .noHome

/-- The path from a home on, if it begins with a tilde. A home must not do so itself. -/
def expandHome (d : Disk) (p : Path) : Except Fault Path :=
  if p.isTilded then
    d.homeOf (p.names.headD "") >>= fun home =>
      if home.isTilded then .error .noHome else .ok (home.join ⟨0, p.names.tail⟩)
  else .ok p

/-- Takes each step up back together with the name before it. -/
def settle (names : List String) : List String :=
  names.foldl (fun done name => if name = ".." then done.dropLast else done ++ [name]) []

/-- The absolute path to the same place, whether anything is there or not. -/
def resolve (d : Disk) (p : Path) : Except Fault Path :=
  if p.hasNul then .error .nulInPath
  else .ok (.ofNames (settle ((if p.isAbsolute then [] else d.working) ++ p.names)))

/-- The one path by which a file is known. -/
def normalize (d : Disk) (p : Path) : Except Fault Path := do d.resolve (← d.expandHome p)

end Disk

end OpenDocs
