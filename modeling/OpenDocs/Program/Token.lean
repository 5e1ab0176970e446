/-!
# Tokens of a program

Lines are counted from 0 and columns in bytes of UTF-8 from the start of the line.
-/

namespace OpenDocs.Program

structure Place where
  line : Nat
  byte : Nat
  deriving DecidableEq, Inhabited

namespace Place

def next (p : Place) (c : Char) : Place :=
  if c = '\n' then ⟨p.line + 1, 0⟩ else ⟨p.line, p.byte + c.utf8Size⟩

def past (p : Place) (cs : List Char) : Place := cs.foldl next p

end Place

inductive TokenKind where
  /-- An identifier. -/
  | name
  /-- A keyword, an operator or a bracket. -/
  | word
  | number
  | string
  | newline
  | indent
  | dedent
  | last
  deriving DecidableEq, Inhabited

structure Token where
  kind : TokenKind
  text : String
  start : Place
  stop : Place
  deriving DecidableEq, Inhabited

/-- Whether the token is part of a line's text, and no mark of the layout. -/
def Token.isVisible (t : Token) : Bool :=
  match t.kind with
  | .newline | .indent | .dedent | .last => false
  | _ => true

end OpenDocs.Program
