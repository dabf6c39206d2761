import WorkspacePool.Calendar.Format
import WorkspacePool.Json.Document

/-!
Shapes of a cluster's objects. A shape reads a JSON document, refuses it where a value has the wrong
type, and leaves the same object in its plainest form: members that are unknown or null are left
out, and members that every object has are filled in.
-/

namespace WorkspacePool.Kubernetes

open Json (Document Members)

abbrev Shape := Document → Option Document

/-- A member of a record. -/
structure Field where
  name : String
  shape : Shape
  /-- What stands for the member when it is not given, if anything does. -/
  absent : Option Document

namespace Shape

def string : Shape
  | .string text => some (.string text)
  | _ => none

def bool : Shape
  | .bool value => some (.bool value)
  | _ => none

def integer (low high : Int) : Shape
  | .number numeral =>
      (Json.Numeral.integer? numeral).bind fun value =>
        if low ≤ value && value ≤ high then some (Document.ofInt value) else none
  | _ => none

def int32 : Shape := integer (-2147483648) 2147483647

def int64 : Shape := integer (-9223372036854775808) 9223372036854775807

/-- A number or a name of a port. -/
def intOrString : Shape
  | .string text => some (.string text)
  | other => int32 other

/-- An instant, kept to the second. -/
def time : Shape
  | .string text => do
      let instant ← Calendar.Timestamp.read text.toList
      let seconds := { instant with nanos := instant.nanos / 1000000000 * 1000000000 }
      some (.string (seconds.text .letter))
  | _ => none

/-- Anything at all. -/
def any : Shape := some

def list (element : Shape) : Shape
  | .array elements => .array <$> elements.mapM element
  | _ => none

def mapOf (value : Shape) : Shape
  | .object members => .object <$> members.mapM fun (key, member) => do some (key, ← value member)
  | _ => none

/-- Read one member of a record. -/
def readField (members : Members) (field : Field) : Option (Option (String × Document)) :=
  match members.lookup field.name with
  | none | some .null => some (field.absent.map fun document => (field.name, document))
  | some document => (field.shape document).map fun read => some (field.name, read)

def record (fields : List Field) : Shape
  | .object members => do
      let read ← fields.mapM (readField members)
      some (.object (read.filterMap id))
  | _ => none

end Shape

namespace Field

/-- A member that may be missing. -/
def optional (shape : Shape) (name : String) : Field := ⟨name, shape, none⟩

/-- A member that every object has. -/
def always (shape : Shape) (absent : Document) (name : String) : Field := ⟨name, shape, some absent⟩

def texts (names : List String) : List Field := names.map (optional .string)

def flags (names : List String) : List Field := names.map (optional .bool)

def int32s (names : List String) : List Field := names.map (optional .int32)

def int64s (names : List String) : List Field := names.map (optional .int64)

def textLists (names : List String) : List Field := names.map (optional (.list .string))

def textMaps (names : List String) : List Field := names.map (optional (.mapOf .string))

def times (names : List String) : List Field := names.map (optional .time)

/-- Texts that are empty when they are not given. -/
def names (names : List String) : List Field := names.map (always .string (.string ""))

end Field

end WorkspacePool.Kubernetes
