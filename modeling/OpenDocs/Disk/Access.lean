import OpenDocs.Disk.Basic
import OpenDocs.Encoding.Stream

/-!
# Writing to a disk

A file is written under a temporary name beside its target, which it then replaces, so that the
target has its old bytes or all of its new ones.
-/

namespace OpenDocs.Disk

/-- An action on a disk; what it did before a fault stays done. -/
abbrev Access := ExceptT Fault (StateM Disk)

def makeDirectory (d : Disk) (p : Path) : Except Fault Disk := do
  let at_ ← d.locate p
  match d.lookup at_ with
  | some _ => throw (.access .present p.text)
  | none => pure (d.put at_ .directory)

/-- A directory that is there already serves as well. -/
def ensureDirectory (d : Disk) (p : Path) : Except Fault Disk :=
  match d.makeDirectory p with
  | .ok d => .ok d
  | .error (.access .missing text) => .error (.access .missing text)
  | .error f => if d.isDirectory p then .ok d else .error f

/-- Makes a directory, after those around it where they are missing. `names` are those of the
path. -/
def ensureDirectories (d : Disk) (slashes : Nat) (names : List String) : Except Fault Unit × Disk :=
  match d.ensureDirectory ⟨slashes, names⟩ with
  | .ok d => (.ok (), d)
  | .error f =>
    match f, names with
    | .access .missing _, name :: rest =>
      match ensureDirectories d slashes (name :: rest).dropLast with
      | (.error f, d) => (.error f, d)
      | (.ok (), d) =>
        match d.ensureDirectory ⟨slashes, names⟩ with
        | .ok d => (.ok (), d)
        | .error f => (.error f, d)
    | f, _ => (.error f, d)
termination_by names.length
decreasing_by simp_all

def makeDirectories (p : Path) : Access Unit :=
  ExceptT.mk fun d => d.ensureDirectories p.slashes p.names

def liftExcept {α : Type} : Except Fault α → Access α
  | .ok x => pure x
  | .error f => throw f

/-- Eight digits. -/
def tagText (n : Nat) : String :=
  let digits := toString n
  String.ofList (List.replicate (8 - digits.length) '0') ++ digits

def temporaryName (name : String) (n : Nat) : String := s!".{name}.{tagText n}.tmp"

/-- A number whose temporary name is free in a directory. -/
def freeTag (d : Disk) (directory : List String) (name : String) : Nat :=
  ((List.range (d.entries.length + 1)).find? fun n =>
    (d.lookup (directory ++ [temporaryName name n])).isNone).getD 0

/-- The path of a new file beside a target, under a name that is free in their directory. -/
def temporaryPath (d : Disk) (directory : List String) (p : Path) : Path :=
  p.parent.join ⟨0, [temporaryName p.name (d.freeTag directory p.name)]⟩

/-- Puts bytes into the file that a path leads to, which is made if it is missing. -/
def openFile (d : Disk) (p : Path) (bytes : List UInt8) : Except Fault Disk := do
  let at_ ← d.locate p
  match d.lookup at_ with
  | some .directory => throw (.access .isDirectory p.text)
  | _ =>
    if d.sealed.contains at_ then throw (.access .refused p.text)
    else pure (d.put at_ (.file bytes))

/-- The place that a file may be moved to. A step up or no name at all leads to a directory in
use. -/
def moveTarget (d : Disk) (p : Path) : Except Fault (List String) := do
  let at_ ← d.locate p
  match p.names.getLast? with
  | none | some ".." => throw (.access .busy p.text)
  | some _ =>
    match d.lookup at_ with
    | some .directory => throw (.access .isDirectory p.text)
    | _ => pure at_

/-- Moves a file to a path, in place of the file that is there. -/
def moveFile (d : Disk) (from_ : List String) (p : Path) : Except Fault Disk := do
  let at_ ← d.moveTarget p
  match d.lookup from_ with
  | some e => pure ((d.remove from_).put at_ e)
  | none => throw (.access .missing p.text)

/-- Writes bytes so that the target changes at once or not at all. Whether there are any is asked
only when the temporary file is there. -/
def writeCoded (p : Path) (coded : Except Encoding.Refusal (List UInt8)) : Access Path := do
  makeDirectories p.parent
  let d ← get
  let directory ← liftExcept (d.locate p.parent)
  let temporary ← liftExcept (d.locate (d.temporaryPath directory p))
  set (d.put temporary (.file []))
  match coded with
  | .error r =>
    modify (·.remove temporary)
    throw (.encoding r)
  | .ok bytes =>
    modify (·.put temporary (.file bytes))
    match (← get).moveFile temporary p with
    | .error f =>
      modify (·.remove temporary)
      throw f
    | .ok d =>
      set d
      pure p

/-- Writes what an encoder gives for a text. What it then owes is not asked for. -/
def writeWith (encoders : Encoding.Encoders) (p : Path) (t : List Char) (encoding : String) :
    Access Path :=
  writeCoded p (encoders.given t encoding)

def writeText (p : Path) (t : List Char) (encoding : String) : Access Path :=
  writeWith Encoding.encoders p t encoding

/-- What lies below a place, seen from there. -/
def below (d : Disk) (at_ : List String) : List (List String × Entry) :=
  d.entries.filterMap fun (names, e) =>
    if at_.isPrefixOf names && at_ != names then some (names.drop at_.length, e) else none

def Entry.listed (names : List String) (e : Entry) : String :=
  "/".intercalate names ++ match e with
    | .directory => "/"
    | .file _ => ""

/-- The paths below a place, those of directories with a slash at the end, in order. -/
def listing (d : Disk) (at_ : List String) : List String :=
  ((d.below at_).map fun (names, e) => e.listed names).mergeSort fun a b => decide (a ≤ b)

/-- The listing of the place that a path leads to. -/
def listingAt (d : Disk) (p : Path) : List String :=
  match d.locate p with
  | .ok at_ => d.listing at_
  | .error _ => []

/-- The files of the directory that a path leads to, by their names. -/
def filesIn (d : Disk) (p : Path) : List (String × List UInt8) :=
  match d.locate p with
  | .error _ => []
  | .ok at_ => (d.below at_).filterMap fun (names, e) =>
    match names, e with
    | [name], .file bytes => some (name, bytes)
    | _, _ => none

/-- Takes an entry away, with all that lies below it. -/
def removeAll (d : Disk) (at_ : List String) : Disk :=
  { d with
    entries := d.entries.filter fun e => !at_.isPrefixOf e.1
    sealed := d.sealed.filter fun place => !at_.isPrefixOf place }

/-- Takes away what a path leads to, if it leads anywhere. -/
def erase (d : Disk) (p : Path) : Disk :=
  match d.locate p with
  | .ok at_ => d.removeAll at_
  | .error _ => d

/-- Puts a file where a path leads, in directories that are made where they are missing. -/
def placeFile (d : Disk) (p : Path) (bytes : List UInt8) : Disk :=
  let d := ((makeDirectories p.parent).run.run d).2
  match d.openFile p bytes with
  | .ok d => d
  | .error _ => d

/-- Puts a file where a path leads that may not be opened. -/
def placeSealed (d : Disk) (p : Path) : Disk :=
  let d := d.placeFile p []
  match d.locate p with
  | .ok at_ => { d with sealed := at_ :: d.sealed }
  | .error _ => d

/-- The entries of a disk that an earlier one has not. -/
def changes (before after : Disk) : List (Path × Entry) :=
  (after.entries.filter fun (names, e) => before.lookup names != some e).map
    fun (names, e) => (.ofNames names, e)

def placeDirectory (d : Disk) (p : Path) : Disk := ((makeDirectories p).run.run d).2

end OpenDocs.Disk
