import OpenDocs.Program.Token

/-!
# Statements of a program

Of a program's statements those are told apart that an outline shows. Lines are counted from 0,
columns in bytes.
-/

namespace OpenDocs.Program

inductive Expr where
  | name (id : String)
  | attribute (value : Expr) (name : String)
  | subscript (value : Expr)
  | call (function : Expr)
  | tuple (items : List Expr)
  | list (items : List Expr)
  | starred (value : Expr)
  | other
  deriving Inhabited

structure Extent where
  start : Place
  stop : Place
  deriving DecidableEq, Inhabited

inductive Statement where
  | classDef (extent : Extent) (name : String) (body : List Statement)
  | functionDef (extent : Extent) (name : String) (decorators : List Expr) (body : List Statement)
  | assignment (extent : Extent) (targets : List Expr)
  /-- An assignment to one target, with its type. -/
  | annotated (extent : Extent) (target : Expr)
  | other
  deriving Inhabited

end OpenDocs.Program
