import OpenDocs.Encoding.Utf8
import OpenDocs.Failure
import OpenDocs.Json.Reader
import OpenDocs.Encoding.Scheme
import OpenDocs.Text.Case
import OpenDocs.Text.Cut
import OpenDocs.Web.Field

/-!
# Requests and responses

The names of headers are in lower case. A query is a list of names and values in which a percent
sign and two digits stand for a byte of UTF-8 and a plus sign for a blank. Queries and bodies are
read by the framework; only the formats and the JSON values that it finds are relied on.
-/

namespace OpenDocs.Web

structure Request where
  method : String
  path : String
  query : String
  headers : List (String × String)
  body : List UInt8
  client : Option String

inductive Body where
  | empty
  | text (s : List Char)
  | json (j : Json)
  | complaints (cs : List Complaint)
  | file (bytes : List UInt8)

structure Response where
  status : Nat
  headers : List (String × String)
  body : Body

/-- Why a value cannot be sent as JSON. -/
def jsonUnsent? (j : Json) : Option Unsent :=
  if !j.isFinite then some .notFinite else if !j.isWhole then some .surrogate else none

/-- Why a body cannot be sent. A complaint tells the value that it is about. -/
def Body.unsent? : Body → Option Unsent
  | json j => jsonUnsent? j
  | complaints cs => jsonUnsent? (.list (cs.map (·.input)))
  | _ => none

def Body.type : Body → String
  | empty | file _ => ""
  | text _ => "text/plain; charset=utf-8"
  | json _ | complaints _ => "application/json"

def Response.text (status : Nat) (s : String) : Response := ⟨status, [], .text s.toList⟩

def Response.json (status : Nat) (j : Json) : Response := ⟨status, [], .json j⟩

/-- A response that says in a word what is the matter. -/
def Response.detail (status : Nat) (s : String) : Response :=
  .json status (.record [("detail", .text s)])

def Request.header? (r : Request) (name : String) : Option String := r.headers.lookup name

/-- The bytes of a text in which a percent sign and two digits stand for one. -/
def percentBytes : List Char → List UInt8
  | '%' :: a :: b :: rest =>
    match Json.hexDigit? a, Json.hexDigit? b with
    | some a, some b => .ofNat (a * 16 + b) :: percentBytes rest
    | _, _ => Encoding.Utf8.encodeChar '%' ++ percentBytes (a :: b :: rest)
  | c :: rest => Encoding.Utf8.encodeChar c ++ percentBytes rest
  | [] => []

def percentDecode (cs : List Char) : List Char :=
  let bytes := percentBytes (cs.map fun c => if c = '+' then ' ' else c)
  ((Encoding.Utf8.codec.decode .mark 0 bytes).toOption).getD []

/-- The names and values of a query; empty parts are passed over. -/
def parameters (query : String) : List (String × String) :=
  ((Text.cut '&' query.toList).filter (!·.isEmpty)).map fun part =>
    (String.ofList (percentDecode (part.takeWhile (· != '='))),
      String.ofList (percentDecode ((part.dropWhile (· != '=')).drop 1)))

/-- The last value of a parameter. -/
def parameter? (query name : String) : Option String := (parameters query).reverse.lookup name

/-- The path as it stands in an address: a mark that would begin something else ends it. -/
def addressPath (path : String) : String :=
  let cs := path.toList.filter fun c => !(c == '\t' || c == '\n' || c == '\r')
  String.ofList (cs.takeWhile fun c => !(c == '?' || c == '#'))

def upperHex (n : Nat) : Char := if n < 10 then Char.ofNat (48 + n) else Char.ofNat (55 + n)

def isAddressChar (c : Char) : Bool :=
  c.isAlphanum || "_.-~:/%#?=@[]!$&'()*+,;".toList.contains c

/-- An address in which bytes that have no place there are written with a percent sign. -/
def percentEncode (cs : List Char) : List Char :=
  cs.flatMap fun c =>
    if isAddressChar c then [c]
    else (Encoding.Utf8.encodeChar c).flatMap fun b =>
      ['%', upperHex (b.toNat / 16), upperHex (b.toNat % 16)]

/-- The formats that ask for JSON, or for a text. -/
def formats (json : Bool) : List (Option String) :=
  if json then [some "json"] else [none, some "text"]

/-- Whether JSON is asked for, or the answer if neither that nor a text is. -/
def Request.format (r : Request) : Except Response Bool :=
  match parameter? r.query "format" with
  | none | some "text" => .ok false
  | some "json" => .ok true
  | some other =>
    .error ⟨422, [], .complaints [⟨.noChoice, [.name "query", .name "format"], .text other⟩]⟩

theorem Request.format_of_query {r : Request} {json : Bool}
    (asked : parameter? r.query "format" ∈ formats json) : r.format = .ok json := by
  cases json with
  | true => simp [format, List.mem_singleton.mp asked]
  | false =>
    simp only [formats, Bool.false_eq_true, if_false, List.mem_cons, List.not_mem_nil, or_false]
      at asked
    rcases asked with asked | asked <;> simp [format, asked]

/-! Bodies -/

inductive BodyFlaw where
  | missing
  | invalid (offset : Nat)
  /-- The bytes are no text, or reading it goes beyond a limit. -/
  | unreadable
  /-- The type of the body is not that of JSON. -/
  | otherType

/-- The scheme of a JSON text: by its mark, or by where the noughts are in its first bytes. -/
def jsonScheme (bytes : List UInt8) : Encoding.Scheme :=
  let marked : List (List UInt8 × Encoding.Scheme) :=
    [(Encoding.markUtf32 .big, .utf32 none), (Encoding.markUtf32 .little, .utf32 none),
      (Encoding.markUtf16 .big, .utf16 none), (Encoding.markUtf16 .little, .utf16 none),
      (Encoding.markUtf8, .utf8 true)]
  match marked.find? (·.1.isPrefixOf bytes) with
  | some (_, s) => s
  | none =>
    match bytes with
    | 0 :: b :: _ :: _ :: _ => if b = 0 then .utf32 (some .big) else .utf16 (some .big)
    | _ :: 0 :: c :: d :: _ =>
      if c = 0 && d = 0 then .utf32 (some .little) else .utf16 (some .little)
    | [0, _] => .utf16 (some .big)
    | [_, 0] => .utf16 (some .little)
    | _ => .utf8 false

def isJsonType (type : String) : Bool :=
  let essence := Text.toLower (String.ofList (Text.strip (type.toList.takeWhile (· != ';'))))
  match Text.pieces '/' essence with
  | ["application", subtype] => subtype == "json" || subtype.endsWith "+json"
  | _ => false

def Request.json (r : Request) : Except BodyFlaw Json :=
  if r.body.isEmpty then .error .missing
  else if !isJsonType ((r.header? "content-type").getD "application/json") then .error .otherType
  else
    match (jsonScheme r.body).decode .refuse r.body with
    | .error _ => .error .unreadable
    | .ok t =>
      match Json.read (String.ofList t) with
      | .ok j => .ok j
      | .error ⟨.beyond _, _⟩ => .error .unreadable
      | .error fault => .error (.invalid fault.offset)

end OpenDocs.Web
