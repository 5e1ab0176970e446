import OpenDocs.Raw

/-!
# Kinds of symbols

The editor numbers the kinds from 0; a code that stands for none of them is of unknown kind.
-/

namespace OpenDocs.Outline

inductive Kind where
  | unknown
  | file | module | namespace | package | «class» | method | property | field | constructor | enum
  | interface | function | «variable» | constant | string | number | boolean | array | object | key
  | null | enumMember | struct | event | operator | typeParameter
  deriving DecidableEq

namespace Kind

/-- The known kinds in the order of their codes. -/
def known : List Kind :=
  [file, module, «namespace», package, «class», method, property, field, constructor, enum,
    interface, function, «variable», constant, string, number, boolean, array, object, key,
    null, enumMember, struct, event, operator, typeParameter]

def code (k : Kind) : Int := if k = unknown then -1 else known.idxOf k

def ofCode (n : Int) : Kind :=
  match n with
  | .ofNat n => known[n]?.getD unknown
  | .negSucc _ => unknown

theorem ofCode_code (k : Kind) : ofCode k.code = k := by cases k <;> rfl

/-- Only an integer is a code; a truth value is not. -/
def ofRaw : Raw → Kind
  | .int n => ofCode n
  | _ => unknown

def label : Kind → String
  | unknown => "Unknown"
  | file => "File"
  | module => "Module"
  | «namespace» => "Namespace"
  | package => "Package"
  | «class» => "Class"
  | method => "Method"
  | property => "Property"
  | field => "Field"
  | constructor => "Constructor"
  | enum => "Enum"
  | interface => "Interface"
  | function => "Function"
  | «variable» => "Variable"
  | constant => "Constant"
  | string => "String"
  | number => "Number"
  | boolean => "Boolean"
  | array => "Array"
  | object => "Object"
  | key => "Key"
  | null => "Null"
  | enumMember => "EnumMember"
  | struct => "Struct"
  | event => "Event"
  | operator => "Operator"
  | typeParameter => "TypeParameter"

/-- The label in capitals, its words joined by a low line. -/
def name (k : Kind) : String :=
  match k with
  | enumMember => "ENUM_MEMBER"
  | typeParameter => "TYPE_PARAMETER"
  | k => k.label.map Char.toUpper

end Kind

end OpenDocs.Outline
