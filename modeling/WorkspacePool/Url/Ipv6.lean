import WorkspacePool.Text.Decimal
import WorkspacePool.Url.Ipv4

/-!
Addresses of eight pieces of two bytes. Colons stand between the pieces, two colons once for a run
of zero pieces, and the last two pieces may be written as four bytes with dots between them.
-/

namespace WorkspacePool.Url.Ipv6

def pieceCount : Nat := 8

/-- A piece of one to four hexadecimal digits. -/
def readPiece (text : List Char) : Option Nat :=
  if 1 ≤ text.length ∧ text.length ≤ 4 then Ipv4.readDigits 16 text else none

/-- A decimal byte without leading zeros. -/
def readByte (text : List Char) : Option Nat :=
  match text with
  | '0' :: _ :: _ => none
  | _ => (Text.Decimal.readAll text).filter (· < 256)

/-- The two pieces that four bytes make up. -/
def readDotted (text : List Char) : Option (List Nat) := do
  match ← (Text.split (· == '.') text).mapM readByte with
  | [first, second, third, fourth] => some [first * 256 + second, third * 256 + fourth]
  | _ => none

/-- Pieces between colons, none in an empty text. -/
def readPieces (text : List Char) : Option (List Nat) :=
  if text = [] then some [] else (Text.split (· == ':') text).mapM readPiece

/-- Pieces between colons, the last of which may be dotted. -/
def readLastPieces (text : List Char) : Option (List Nat) :=
  match Text.splitLast? ':' text with
  | none => if text.contains '.' then readDotted text else readPieces text
  | some (before, last) => do
      if last.contains '.' then
        return (← (Text.split (· == ':') before).mapM readPiece) ++ (← readDotted last)
      else readPieces text

/-- What stands before and behind the first two colons in a row. -/
def splitRun? : List Char → Option (List Char × List Char)
  | [] => none
  | ':' :: ':' :: rest => some ([], rest)
  | first :: rest => (splitRun? rest).map fun (before, behind) => (first :: before, behind)

/-- The eight pieces of an address. Two colons stand for at least one piece. -/
def read? (text : List Char) : Option (List Nat) := do
  match splitRun? text with
  | none =>
      let pieces ← readLastPieces text
      if pieces.length = pieceCount then some pieces else none
  | some (before, behind) =>
      let before ← readPieces before
      let behind ← readLastPieces behind
      let given := before.length + behind.length
      if given < pieceCount then
        some (before ++ List.replicate (pieceCount - given) 0 ++ behind)
      else none

end WorkspacePool.Url.Ipv6
