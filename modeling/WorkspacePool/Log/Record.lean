import WorkspacePool.Json.Document
import WorkspacePool.Settings.Choice

/-!
Log records: what was noted by whom, how grave it is, and what it is about.
-/

namespace WorkspacePool.Log

/-- How grave a record is, or how much is shown: the records up to a gravity, or none at all. -/
inductive Verbosity where
  | off
  | error
  | warn
  | info
  | debug
  | trace
deriving DecidableEq, Repr

namespace Verbosity

def all : List Verbosity := [.off, .error, .warn, .info, .debug, .trace]

def name : Verbosity → String
  | .off => "OFF"
  | .error => "ERROR"
  | .warn => "WARN"
  | .info => "INFO"
  | .debug => "DEBUG"
  | .trace => "TRACE"

/-- The place in the order from nothing to everything. -/
def rank : Verbosity → Nat
  | .off => 0
  | .error => 1
  | .warn => 2
  | .info => 3
  | .debug => 4
  | .trace => 5

/-- Read a name in any case, or a rank. -/
def read? (text : String) : Option Verbosity :=
  all.find? fun verbosity =>
    Settings.lowercase text == Settings.lowercase verbosity.name ||
      Text.Decimal.readNat 5 text == some verbosity.rank

end Verbosity

inductive FieldValue where
  | text (value : String)
  | count (value : Nat)
deriving DecidableEq, Repr

namespace FieldValue

def shown : FieldValue → String
  | .text value => value
  | .count value => toString value

def document : FieldValue → Json.Document
  | .text value => .string value
  | .count value => .ofNat value

end FieldValue

structure Record where
  verbosity : Verbosity
  /-- The part of the program that made the record. -/
  target : String
  message : String
  fields : List (String × FieldValue)
deriving DecidableEq, Repr

namespace Record

/-- A record as a line of text. -/
def line (record : Record) : String :=
  record.fields.foldl (fun line (name, value) => line ++ " " ++ name ++ "=" ++ value.shown)
    (record.verbosity.name ++ " " ++ record.message)

/-- What a record tells, as members of a JSON object. -/
def members (record : Record) : Json.Members :=
  ("message", .string record.message) ::
    record.fields.map fun (name, value) => (name, value.document)

/-- A record as a JSON object. -/
def document (time : String) (record : Record) : Json.Document :=
  .object [("timestamp", .string time), ("level", .string record.verbosity.name),
    ("fields", .object record.members), ("target", .string record.target)]

end Record

end WorkspacePool.Log
