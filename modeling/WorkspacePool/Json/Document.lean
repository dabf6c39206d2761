import WorkspacePool.Json.Value
import WorkspacePool.Json.Writer

/-!
JSON values all of whose strings are text.
-/

namespace WorkspacePool.Json

inductive Document where
  | null
  | bool (value : Bool)
  | number (numeral : Numeral)
  | string (text : String)
  | array (elements : List Document)
  | object (members : List (String × Document))
deriving Repr, Inhabited

/-- Members of an object in their order. -/
abbrev Members := List (String × Document)

namespace Document

mutual

/-- A value whose strings are all text. -/
def ofValue? : Value → Option Document
  | .null => some .null
  | .bool value => some (.bool value)
  | .number numeral => some (.number numeral)
  | .string quoted => .string <$> Quoted.text? quoted
  | .array elements => .array <$> ofValues? elements
  | .object members => .object <$> ofMembers? members

def ofValues? : List Value → Option (List Document)
  | [] => some []
  | first :: rest => do
      let first ← ofValue? first
      let rest ← ofValues? rest
      some (first :: rest)

def ofMembers? : List (Quoted × Value) → Option Members
  | [] => some []
  | (key, value) :: rest => do
      let key ← Quoted.text? key
      let value ← ofValue? value
      let rest ← ofMembers? rest
      some ((key, value) :: rest)

end

def ofString? (text : String) : Option Document :=
  (Value.ofString text).bind ofValue?

mutual

def write : Document → List Char
  | .null => ['n', 'u', 'l', 'l']
  | .bool value => Writer.bool value
  | .number numeral => numeral.map fun byte => Char.ofNat byte.toNat
  | .string text => Writer.string text
  | .array elements => '[' :: writeElements elements ++ [']']
  | .object members => '\x7b' :: writeMembers members ++ ['\x7d']

def writeElements : List Document → List Char
  | [] => []
  | [last] => write last
  | first :: rest => write first ++ ',' :: writeElements rest

def writeMembers : List (String × Document) → List Char
  | [] => []
  | [(name, value)] => Writer.string name ++ ':' :: write value
  | (name, value) :: rest => Writer.string name ++ ':' :: write value ++ ',' :: writeMembers rest

end

/-- The JSON text of a document. -/
def text (document : Document) : String := String.ofList document.write

def ofNat (value : Nat) : Document :=
  .number ((Text.Decimal.digits value).map fun digit => UInt8.ofNat digit.toNat)

def ofInt (value : Int) : Document :=
  if value < 0 then
    .number (45 :: (Text.Decimal.digits value.natAbs).map fun digit => UInt8.ofNat digit.toNat)
  else ofNat value.toNat

/-- The value of an object's member. -/
def member? (document : Document) (name : String) : Option Document :=
  match document with
  | .object members => members.lookup name
  | _ => none

def text? : Document → Option String
  | .string text => some text
  | _ => none

end Document

end WorkspacePool.Json
