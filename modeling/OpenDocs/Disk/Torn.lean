import OpenDocs.Disk.Basic

/-!
# Paths in torn texts

A path that a client sends may hold lone surrogates. Some of these stand for bytes in the names of
files; a name with any other cannot be asked for. No name on the disk is torn, so a torn name is one
that is not there, but a step up behind it takes it back.
-/

namespace OpenDocs.Disk

open Text (Point)

/-- Whether a lone surrogate stands for no byte of a name. -/
def isLost : Point → Bool
  | .char _ => false
  | .surrogate n => !(0x480 ≤ n.val && n.val < 0x500)

/-- What asking for a name fails with, whether it is there or not. -/
def nameFault? (name : List Point) : Option Fault :=
  if name.any isLost then some (.encoding .surrogate)
  else if name.contains (.char '\x00') then some .nulInPath
  else none

def settlePoints (names : List (List Point)) : List (List Point) :=
  names.foldl (fun done name => if name = Text.points ".." then done.dropLast else done ++ [name])
    []

/-- The absolute path to the same place, nothing if it has a torn name. -/
def resolvePoints (d : Disk) (isAbsolute : Bool) (names : List (List Point)) :
    Except Fault (Option Path) :=
  match names.findSome? nameFault? with
  | some f => .error f
  | none =>
    let from_ := if isAbsolute then [] else d.working.map Text.points
    .ok (((settlePoints (from_ ++ names)).mapM Text.whole?).map .ofNames)

def homeOfPoints (d : Disk) (name : List Point) : Except Fault Path :=
  match Text.whole? name with
  | some s => d.homeOf s
  | none => .error ((nameFault? name).getD .noHome)

def normalizeTorn (d : Disk) (ps : List Point) : Except Fault (Option Path) :=
  let names := (Text.cut (.char '/') ps).filter fun name => name != [] && name != Text.points "."
  let isAbsolute := ps.head? == some (.char '/')
  let first := names.headD []
  if !isAbsolute && first.head? == some (.char '~') then
    d.homeOfPoints first >>= fun home =>
      if home.isTilded then .error .noHome
      else d.resolvePoints home.isAbsolute (home.names.map Text.points ++ names.tail)
  else d.resolvePoints isAbsolute names

/-- The one path by which the file is known that a text leads to, nothing if it has a torn name. -/
def normalizePoints (d : Disk) (ps : List Point) : Except Fault (Option Path) :=
  match Text.whole? ps with
  | some s => (d.normalize (.ofString s)).map some
  | none => d.normalizeTorn ps

end OpenDocs.Disk
