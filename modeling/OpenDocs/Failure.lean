import OpenDocs.Disk.Basic
import OpenDocs.Problem

/-!
# Failures

What a request about the open documents can end in: a problem that is told to the client, a fault of
the disk, a refusal by another part, or an answer that cannot be sent.
-/

namespace OpenDocs

/-- Why a value cannot be sent. -/
inductive Unsent where
  | surrogate
  | notFinite
  deriving DecidableEq

inductive Failure where
  | problem (p : Problem)
  /-- No tab has an identifier, and the problem cannot be told because the identifier is torn. -/
  | unnamed (identifier : List Text.Point)
  | fault (f : Disk.Fault)
  | refused (message : String)
  | unsent (why : Unsent)
  | mishap (m : Mishap)
  deriving DecidableEq

/-- The problem, or what comes up in its place. -/
def Problem.raised (p : Problem) : Failure :=
  match p.mishap? with
  | some m => .mishap m
  | none => .problem p

theorem Problem.raised_of_mishap {p : Problem} {m : Mishap} (mishap : p.mishap? = some m) :
    p.raised = .mishap m := by
  rw [raised, mishap]

theorem Problem.raised_of_none {p : Problem} (none : p.mishap? = none) : p.raised = .problem p := by
  rw [raised, none]

def Failure.noSuchTab (identifier : List Text.Point) : Failure :=
  match Text.whole? identifier with
  | some name => .problem (.noSuchTab name none)
  | none => .unnamed identifier

def Failure.ofRange (f : RangeFlaw) : Failure := Problem.raised (.range f)

/-- A flaw of numbers is told unless it has one that is too long. -/
theorem Failure.ofRange_eq {f : RangeFlaw} (gone : f ≠ .unlisted) (fit : f.reason ≠ "overflow") :
    ofRange f = if f.numbers.any Json.isLong then .mishap .longNumber else .problem (.range f) := by
  rw [ofRange, Problem.raised, Problem.mishap?, f.mishap?_eq gone fit]
  cases f.numbers.any Json.isLong <;> rfl

end OpenDocs
