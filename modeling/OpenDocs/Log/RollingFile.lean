import OpenDocs.Disk.Basic

/-!
# Rolling files

Lines are added to a file until the next one would fill it. The file is then put aside as the first
of its backups, each of which moves one place on, and a new one is begun. Without backups it grows
further.
-/

namespace OpenDocs.Log

structure RollingFile where
  place : List String
  /-- From this size on a file is full; none is if it is not positive. -/
  maxBytes : Int
  backups : Int
  deriving DecidableEq

namespace RollingFile

/-- Where a backup lies. -/
def backup (f : RollingFile) (n : Nat) : List String :=
  match f.place.getLast? with
  | some name => f.place.dropLast ++ [s!"{name}.{n}"]
  | none => []

def bytes (d : Disk) (f : RollingFile) : List UInt8 :=
  match d.lookup f.place with
  | some (.file bytes) => bytes
  | _ => []

/-- The characters of the line are counted, not its bytes. -/
def isFilledBy (d : Disk) (f : RollingFile) (line : List Char) : Bool :=
  0 < f.maxBytes && f.maxBytes ≤ (f.bytes d).length + line.length

/-- Moves a file, if it is there, in place of what is there. It stays sealed. -/
def moveOn (d : Disk) (source target : List String) : Disk :=
  match d.lookup source with
  | some e =>
    let moved := (d.remove source).put target e
    if d.sealed.contains source then { moved with sealed := target :: moved.sealed } else moved
  | none => d

/-- Moves as many backups on, the last of them first. -/
def moveBackups (d : Disk) (f : RollingFile) : Nat → Disk
  | 0 => d
  | n + 1 => moveBackups (moveOn d (f.backup (n + 1)) (f.backup (n + 2))) f n

def roll (d : Disk) (f : RollingFile) : Disk :=
  if f.backups ≤ 0 then d
  else
    let d := moveBackups d f (f.backups - 1).toNat
    (moveOn d f.place (f.backup 1)).put f.place (.file [])

def append (d : Disk) (f : RollingFile) (line : List Char) : Disk :=
  let d := if f.isFilledBy d line then f.roll d else d
  d.put f.place (.file (f.bytes d ++ Encoding.Utf8.encode line))

end RollingFile

/-- Opens a rolling file, which is made if it is missing and otherwise goes on where it ends. -/
def openRolling (d : Disk) (p : Disk.Path) (maxBytes backups : Int) :
    Except Disk.Fault (RollingFile × Disk) := do
  let p ← d.resolve p
  let place ← d.locate p
  match d.lookup place with
  | some .directory => throw (.access .isDirectory p.text)
  | some (.file _) =>
    if d.sealed.contains place then throw (.access .refused p.text)
    else pure (⟨place, maxBytes, backups⟩, d)
  | none => pure (⟨place, maxBytes, backups⟩, d.put place (.file []))

end OpenDocs.Log
