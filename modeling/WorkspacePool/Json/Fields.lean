import WorkspacePool.Json.Value

/-!
Records in JSON. A record is written as an object, or as an array of its fields in their order.
Members with other names are passed over, whatever they hold; a field may not be given twice.
-/

namespace WorkspacePool.Json

/-- A way to read a JSON value as something of a given type. -/
abbrev Decoder (α : Type) := Value → Option α

namespace Decoder

def string : Decoder String
  | .string quoted => Quoted.text? quoted
  | _ => none

def bool : Decoder Bool
  | .bool value => some value
  | _ => none

/-- A natural number up to a bound, written with digits alone. -/
def natural (bound : Nat) : Decoder Nat
  | .number numeral => (Numeral.natural? numeral).filter (· ≤ bound)
  | _ => none

def uint32 : Decoder UInt32 := fun value => UInt32.ofNat <$> natural 4294967295 value

def uint64 : Decoder UInt64 := fun value => UInt64.ofNat <$> natural 18446744073709551615 value

/-- The name of a choice, by itself or as the only member of an object that holds null. -/
def choice : Decoder String
  | .string quoted => Quoted.text? quoted
  | .object [(quoted, .null)] => Quoted.text? quoted
  | _ => none

end Decoder

namespace Fields

/-- A member of an object whose name is text. -/
def readName (member : Quoted × Value) : Option (String × Value) := do
  some (← Quoted.text? member.1, member.2)

/-- The members of an object whose name is given. -/
def named (name : String) (members : List (String × Value)) : List Value :=
  (members.filter (·.1 == name)).map (·.2)

/-- The values of a record's fields in their order; a field that is not given has none. -/
def collect (names : List String) : Value → Option (List (Option Value))
  | .array elements =>
      if elements.length ≤ names.length then
        some (elements.map some ++ List.replicate (names.length - elements.length) none)
      else none
  | .object members => do
      let members ← members.mapM readName
      names.mapM fun name =>
        match named name members with
        | [] => some none
        | [value] => some (some value)
        | _ => none
  | _ => none

/-- A field that has to be given. -/
def required {α : Type} (decoder : Decoder α) : Option Value → Option α
  | some value => decoder value
  | none => none

/-- A field that has a value of its own when it is not given. -/
def optional {α : Type} (absent : α) (decoder : Decoder α) : Option Value → Option α
  | some value => decoder value
  | none => some absent

end Fields

end WorkspacePool.Json
