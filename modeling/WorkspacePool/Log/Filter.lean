import WorkspacePool.Log.Record
import WorkspacePool.Text.Blank
import WorkspacePool.Text.Split

/-!
Filters for log records. A filter is a list of directives with commas between them; of the
directives that fit a record, the most specific one decides whether it is shown.
-/

namespace WorkspacePool.Log

/-- A field that a directive asks for, by name or also by value. -/
structure FieldPattern where
  name : String
  hasValue : Bool
deriving DecidableEq, Repr

/-- One part of a filter: how much is shown of the records from a target, in a span, with fields. -/
structure Directive where
  verbosity : Verbosity
  target : Option String
  span : Option String
  fields : List FieldPattern
deriving DecidableEq, Repr

namespace Directive

/-! ### Reading

A directive is read without the blanks around it, but what its parts hold is taken from the text
with them, at the same places. So a character is read as a pair of what stands at its place without
the blanks and what stands there with them. -/

abbrev Place := Char × Char

/-- The places of a text, and what of it lies beyond them. -/
def places (text : List Char) : List Place × List Char :=
  let seen := (Text.trim (String.ofList text)).toList
  (seen.zip text, text.drop seen.length)

/-- What is taken from places. -/
def taken (places : List Place) : String :=
  String.ofList (places.map Prod.snd)

/-- The places before the first character of a kind, and the places from it on. -/
def breakAt (isEnd : Char → Bool) (places : List Place) : List Place × List Place :=
  (places.takeWhile (!isEnd ·.1), places.dropWhile (!isEnd ·.1))

/-- A verbosity at the end of a directive. All is shown if none is given. -/
def readVerbosity (places : List Place) (beyond : List Char) : Option Verbosity :=
  match taken places ++ String.ofList beyond with
  | "" => some .trace
  | text => Verbosity.read? text

/-- The verbosity behind a span. -/
def readAfterSpan (places : List Place) (beyond : List Char) : Option Verbosity :=
  match places with
  | [] => some .trace
  | ('=', _) :: rest => readVerbosity rest beyond
  | _ => none

def readField (text : String) : FieldPattern :=
  match Text.splitFirst? '=' text.toList with
  | some (name, _) => ⟨String.ofList name, true⟩
  | none => ⟨text, false⟩

/-- A span's name and a field in it, each of which may be missing, and the verbosity. -/
def readSpan (target : Option String) (places : List Place) (beyond : List Char) :
    Option Directive :=
  match breakAt (fun seen => seen == ']' || seen == '\x7b') places with
  | (name, (']', _) :: rest) => do
      return ⟨← readAfterSpan rest beyond, target, some (taken name), []⟩
  | (name, _ :: rest) =>
      match breakAt (· == '\x7d') rest with
      | (field, _ :: (']', _) :: rest) =>
          if field = [] then none
          else do
            return ⟨← readAfterSpan rest beyond, target,
              if name = [] then none else some (taken name), [readField (taken field)]⟩
      | _ => none
  | _ => none

/-- A character that a target may start with. -/
def startsTarget (character : Char) : Bool :=
  character.isAlphanum || 0x80 ≤ character.toNat || ['-', ':', '_'].contains character

def read? (text : List Char) : Option Directive :=
  let (places, beyond) := places text
  match places with
  | [] => none
  | ('[', _) :: rest => readSpan none rest beyond
  | (first, _) :: _ =>
      if startsTarget first then
        match breakAt (fun seen => seen == '=' || seen == '[') places with
        | (target, ('=', _) :: rest) => do
            return ⟨← readVerbosity rest beyond, some (taken target), none, []⟩
        | (target, _ :: rest) => readSpan (some (taken target)) rest beyond
        | (_, []) =>
            let whole := String.ofList text
            match Verbosity.read? whole with
            | some verbosity => some ⟨verbosity, none, none, []⟩
            | none => some ⟨.trace, some whole, none, []⟩
      else none

/-! ### Deciding -/

/-- Whether a directive says anything of records outside spans. One that names a span or a field's
value does not. -/
def isStatic (directive : Directive) : Bool :=
  directive.span.isNone && directive.fields.all (!·.hasValue)

def fits (directive : Directive) (record : Record) : Bool :=
  (directive.target.all fun target => target.toList.isPrefixOf record.target.toList) &&
    directive.fields.all fun field =>
      field.name == "message" || record.fields.any (·.1 == field.name)

/-- The order of a dictionary. -/
def precedes : List Char → List Char → Bool
  | _, [] => false
  | [], _ :: _ => true
  | first :: rest, other :: others =>
      first.toNat < other.toNat || (first == other && precedes rest others)

/-- Longer targets are more specific, then more fields, and then their names decide. -/
def isAtLeastAsSpecificAs (directive other : Directive) : Bool :=
  let size (directive : Directive) := directive.target.elim 0 (·.utf8ByteSize + 1)
  let names (directive : Directive) :=
    Text.join [','] (directive.fields.map (·.name.toList))
  if size directive ≠ size other then size other < size directive
  else if directive.fields.length ≠ other.fields.length then
    other.fields.length < directive.fields.length
  else !precedes (names directive) (names other)

end Directive

/-- Directives in the order they are given. -/
structure Filter where
  directives : List Directive
deriving DecidableEq, Repr

namespace Filter

/-- Show all records up to a verbosity. -/
def upTo (verbosity : Verbosity) : Filter := ⟨[⟨verbosity, none, none, []⟩]⟩

/-- The filter that a text spells. Without any directive only errors are shown. -/
def read? (text : String) : Option Filter := do
  let parts := (Text.split (· == ',') text.toList).filter (· ≠ [])
  match ← parts.mapM Directive.read? with
  | [] => some (upTo .error)
  | directives => some ⟨directives⟩

/-- The filter that a variable asks for. If it asks for none, records up to `info` are shown. -/
def ofVariable (value : Option (List UInt8)) : Filter :=
  ((value.bind fun bytes => String.fromUTF8? bytes.toByteArray).bind read?).getD (upTo .info)

/-- The most specific directive on a record outside spans, and of several the last one given. -/
def directive? (filter : Filter) (record : Record) : Option Directive :=
  filter.directives.foldl (fun found directive =>
    if directive.isStatic && directive.fits record &&
        found.all directive.isAtLeastAsSpecificAs then some directive else found) none

def shows (filter : Filter) (record : Record) : Bool :=
  (filter.directive? record).any fun directive =>
    record.verbosity.rank ≤ directive.verbosity.rank

end Filter

end WorkspacePool.Log
