/-!
# Number literals of a program

Each function takes the text from some point of a literal on and gives what is behind the
literal, or nothing if the literal is not well formed.
-/

namespace OpenDocs.Program

def isDigit (c : Char) : Bool := '0' ≤ c && c ≤ '9'

def isHexDigit (c : Char) : Bool := isDigit c || ('a' ≤ c && c ≤ 'f') || ('A' ≤ c && c ≤ 'F')

/-- Any code point beyond ASCII may belong to a name until the whole name is looked at. -/
def isNameStart (c : Char) : Bool :=
  ('a' ≤ c && c ≤ 'z') || ('A' ≤ c && c ≤ 'Z') || c == '_' || 128 ≤ c.toNat

def isNamePart (c : Char) : Bool := isNameStart c || isDigit c

/-- A word that stands by itself at the start of the text. -/
def startsWord (word : String) (cs : List Char) : Bool :=
  word.toList.isPrefixOf cs && !((cs.drop word.length).head?.map isNamePart).getD false

/-- Behind a number no name may begin, but for the words that can follow an expression. -/
def endsNumber (cs : List Char) : Bool :=
  !(cs.head?.map isNamePart).getD false
    || ["and", "else", "for", "or", "not"].any (startsWord · cs)
    || [['i', 'f'], ['i', 'n'], ['i', 's']].any (·.isPrefixOf cs)

def numberEnd? (cs : List Char) : Option (List Char) := if endsNumber cs then some cs else none

/-- Digits of a class, single low lines between them. -/
def digits? (ok : Char → Bool) : List Char → Option (List Char)
  | [] => some []
  | c :: cs =>
    if ok c then digits? ok cs
    else if c = '_' then
      match cs with
      | d :: ds => if ok d then digits? ok ds else none
      | [] => none
    else some (c :: cs)

/-- Digits behind a mark of the base, where a low line may come first. -/
def baseDigits? (ok : Char → Bool) (cs : List Char) : Option (List Char) := do
  let body := if cs.head? = some '_' then cs.drop 1 else cs
  if !(body.head?.map ok).getD false then none
  let rest ← digits? ok body
  if (rest.head?.map isDigit).getD false then none
  numberEnd? rest

def imaginaryEnd? : List Char → Option (List Char)
  | 'j' :: cs | 'J' :: cs => numberEnd? cs
  | cs => numberEnd? cs

def exponentEnd? (cs : List Char) : Option (List Char) :=
  match cs with
  | e :: rest =>
    if e = 'e' ∨ e = 'E' then
      match rest with
      | sign :: d :: more =>
        if sign = '+' ∨ sign = '-' then
          if isDigit d then (digits? isDigit more).bind imaginaryEnd? else none
        else if isDigit sign then (digits? isDigit rest).bind imaginaryEnd?
        else numberEnd? cs
      | [d] =>
        if d = '+' ∨ d = '-' then none
        else if isDigit d then imaginaryEnd? []
        else numberEnd? cs
      | [] => numberEnd? cs
    else imaginaryEnd? cs
  | [] => some []

/-- What follows a decimal point. -/
def fractionEnd? (cs : List Char) : Option (List Char) :=
  if (cs.head?.map isDigit).getD false then (digits? isDigit cs).bind exponentEnd?
  else exponentEnd? cs

def zeros? : List Char → Option (List Char)
  | [] => some []
  | '0' :: cs => zeros? cs
  | '_' :: d :: cs => if d = '0' then zeros? cs else if isDigit d then some (d :: cs) else none
  | '_' :: [] => none
  | c :: cs => some (c :: cs)

/-- A number that begins with nought has a base, a fraction or an exponent, or is nought. -/
def noughtEnd? : List Char → Option (List Char)
  | 'x' :: cs | 'X' :: cs => baseDigits? isHexDigit cs
  | 'o' :: cs | 'O' :: cs => baseDigits? (fun c => '0' ≤ c && c ≤ '7') cs
  | 'b' :: cs | 'B' :: cs => baseDigits? (fun c => c == '0' || c == '1') cs
  | cs => do
    let rest ← zeros? cs
    let longer := (rest.head?.map isDigit).getD false
    let rest ← if longer then digits? isDigit rest else some rest
    match rest with
    | '.' :: more => fractionEnd? more
    | c :: _ =>
      if c = 'e' ∨ c = 'E' then exponentEnd? rest
      else if c = 'j' ∨ c = 'J' then imaginaryEnd? rest
      else if longer then none
      else numberEnd? rest
    | [] => if longer then none else some []

/-- What is behind the number that begins with this digit. -/
def numberAfter? : List Char → Option (List Char)
  | '0' :: cs => noughtEnd? cs
  | cs => do
    match ← digits? isDigit cs with
    | '.' :: more => fractionEnd? more
    | rest => exponentEnd? rest

def isImaginary (text : String) : Bool :=
  text.endsWith "j" || text.endsWith "J"

/-- Whole numbers in base ten are read up to 4300 digits. -/
def isReadable (text : String) : Bool :=
  let cs := text.toList.filter (· != '_')
  cs.length ≤ 4300 || !cs.all isDigit || cs.all (· == '0')

end OpenDocs.Program
