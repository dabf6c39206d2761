/-!
Decimal numbers: digits of naturals, padding to a width, and reading a run of digits back.
-/

namespace WorkspacePool.Text.Decimal

/-- An ASCII digit. -/
def isDigit (character : Char) : Bool :=
  '0' ≤ character && character ≤ '9'

/-- What a digit counts. -/
def digitValue (character : Char) : Nat :=
  character.toNat - '0'.toNat

/-- The digit that counts a number below ten. -/
def digit (value : Nat) : Char :=
  Char.ofNat ('0'.toNat + value % 10)

/-- The digits of a number, without leading zeros. -/
def digits (value : Nat) : List Char :=
  if value < 10 then [digit value] else digits (value / 10) ++ [digit value]
termination_by value

/-- The number that a run of digits counts. -/
def ofDigits (run : List Char) : Nat :=
  run.foldl (fun value character => value * 10 + digitValue character) 0

/-- The digits of a number, with leading zeros up to a width. -/
def padded (width value : Nat) : List Char :=
  let run := digits value
  List.replicate (width - run.length) '0' ++ run

/-- The run of digits a text starts with, at most `limit` of them, and what follows it. -/
def takeDigits : (limit : Nat) → List Char → List Char × List Char
  | 0, text => ([], text)
  | _, [] => ([], [])
  | limit + 1, first :: rest =>
      if isDigit first then
        let (run, others) := takeDigits limit rest
        (first :: run, others)
      else ([], first :: rest)

/-- Read at least one digit and at most `limit`. -/
def read (limit : Nat) (text : List Char) : Option (Nat × List Char) :=
  match takeDigits limit text with
  | ([], _) => none
  | (run, rest) => some (ofDigits run, rest)

/-- Read digits to the end of the text. -/
def readAll (text : List Char) : Option Nat :=
  match read text.length text with
  | some (value, []) => some value
  | _ => none

/-- A natural number up to a bound, with or without a plus sign in front. -/
def readNat (bound : Nat) (text : String) : Option Nat :=
  let run := match text.toList with
    | '+' :: rest => rest
    | other => other
  (readAll run).filter (· ≤ bound)

/-- An integer between two bounds, with or without a sign in front. -/
def readInt (low high : Int) (text : String) : Option Int :=
  let value : Option Int := match text.toList with
    | '+' :: rest => (readAll rest).map (fun size => (size : Int))
    | '-' :: rest => (readAll rest).map (fun size => -(size : Int))
    | run => (readAll run).map (fun size => (size : Int))
  value.filter fun number => low ≤ number && number ≤ high

end WorkspacePool.Text.Decimal
