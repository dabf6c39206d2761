import WorkspacePool.Calendar.Timestamp
import WorkspacePool.Text.Blank
import WorkspacePool.Text.Decimal

/-!
Timestamps as text. Writing follows RFC 3339; reading is more lenient: it takes signed years of any
length, one-digit fields, blanks around the fields, any offset of less than a day, and leap seconds.
-/

namespace WorkspacePool.Calendar

open Text (dropBlanks)

/-! ### Writing -/

/-- Years of at most four digits are written plainly, all others with a sign. -/
def yearText (year : Int) : List Char :=
  if 0 ≤ year && year ≤ 9999 then Text.Decimal.padded 4 year.toNat
  else (if year < 0 then '-' else '+') :: Text.Decimal.padded 4 year.natAbs

/-- No fraction, or three, six or nine digits of it, the fewest that are exact. -/
def fractionText (nanos : Nat) : List Char :=
  if nanos == 0 then []
  else if nanos % 1000000 == 0 then '.' :: Text.Decimal.padded 3 (nanos / 1000000)
  else if nanos % 1000 == 0 then '.' :: Text.Decimal.padded 6 (nanos / 1000)
  else '.' :: Text.Decimal.padded 9 nanos

namespace Date

def text (date : Date) : List Char :=
  yearText date.year ++ '-' :: Text.Decimal.padded 2 date.month ++
    '-' :: Text.Decimal.padded 2 date.day

end Date

namespace Timestamp

/-- How an offset of zero is written. -/
inductive Zone where
  | letter
  | offset
deriving DecidableEq, Repr

def Zone.text : Zone → List Char
  | .letter => ['Z']
  | .offset => ['+', '0', '0', ':', '0', '0']

def write (zone : Zone) (timestamp : Timestamp) : List Char :=
  let second := timestamp.second % 60 + timestamp.nanos / 1000000000
  timestamp.date.text ++ 'T' :: Text.Decimal.padded 2 (timestamp.second / 3600) ++
    ':' :: Text.Decimal.padded 2 (timestamp.second / 60 % 60) ++
    ':' :: Text.Decimal.padded 2 second ++
    fractionText (timestamp.nanos % 1000000000) ++ zone.text

def text (zone : Zone) (timestamp : Timestamp) : String :=
  String.ofList (timestamp.write zone)

end Timestamp

/-! ### Reading -/

/-- A number of at most `limit` digits, with blanks before it. -/
def readField (limit : Nat) (text : List Char) : Option (Nat × List Char) :=
  Text.Decimal.read limit (dropBlanks text)

/-- A separator, with blanks before it. -/
def readMark (mark : Char) (text : List Char) : Option (List Char) :=
  match dropBlanks text with
  | [] => none
  | first :: rest => if first == mark then some rest else none

/-- A year of up to four digits, or of any length behind a sign. -/
def readYear (text : List Char) : Option (Int × List Char) :=
  match dropBlanks text with
  | '-' :: rest =>
      (Text.Decimal.read rest.length rest).map fun (year, left) => (-(year : Int), left)
  | '+' :: rest => (Text.Decimal.read rest.length rest).map fun (year, left) => ((year : Int), left)
  | plain => (Text.Decimal.read 4 plain).map fun (year, left) => ((year : Int), left)

def readDate (text : List Char) : Option (Date × List Char) := do
  let (year, text) ← readYear text
  let text ← readMark '-' text
  let (month, text) ← readField 2 text
  let text ← readMark '-' text
  let (day, text) ← readField 2 text
  let date : Date := ⟨year, month, day⟩
  if date.isValid then some (date, text) else none

/-- A fraction of a second in nanoseconds. Digits beyond the ninth are passed over. -/
def readFraction (text : List Char) : Option (Nat × List Char) :=
  match text with
  | '.' :: rest =>
      match Text.Decimal.takeDigits 9 rest with
      | ([], _) => none
      | (run, left) =>
          some (Text.Decimal.ofDigits (run ++ List.replicate (9 - run.length) '0'),
            left.dropWhile Text.Decimal.isDigit)
  | _ => some (0, text)

/-- Seconds since midnight and nanoseconds. The sixtieth second of a minute is a leap second. -/
def readTime (text : List Char) : Option (Nat × Nat × List Char) := do
  let (hour, text) ← readField 2 text
  let text ← readMark ':' text
  let (minute, text) ← readField 2 text
  let text ← readMark ':' text
  let (second, text) ← readField 2 text
  let (nanos, text) ← readFraction text
  if hour < 24 && minute < 60 && second ≤ 60 then
    if second == 60 then some (hour * 3600 + minute * 60 + 59, nanos + 1000000000, text)
    else some (hour * 3600 + minute * 60 + second, nanos, text)
  else none

/-- Two digits. -/
def readPair (text : List Char) : Option (Nat × List Char) :=
  match Text.Decimal.takeDigits 2 text with
  | ([tens, ones], rest) => some (Text.Decimal.ofDigits [tens, ones], rest)
  | _ => none

/-- Hours and minutes of an offset in seconds, with or without colons and blanks between them. -/
def readOffsetSize (text : List Char) : Option (Nat × List Char) := do
  let (hours, text) ← readPair text
  let (minutes, text) ←
    readPair (text.dropWhile fun character => character == ':' || Text.isBlank character)
  if minutes < 60 then some (hours * 3600 + minutes * 60, text) else none

/-- An offset in seconds east of universal time. -/
def readOffset (text : List Char) : Option (Int × List Char) :=
  match text with
  | 'Z' :: rest | 'z' :: rest => some (0, rest)
  | '+' :: rest => (readOffsetSize rest).map fun (size, left) => ((size : Int), left)
  | '-' :: rest | '−' :: rest => (readOffsetSize rest).map fun (size, left) => (-(size : Int), left)
  | first :: second :: third :: rest =>
      if [first, second, third].map Char.toUpper == ['U', 'T', 'C'] then some (0, rest) else none
  | _ => none

/-- What stands between a date and a time. -/
def readJoin (text : List Char) : Option (List Char) :=
  match text with
  | 'T' :: rest | 't' :: rest | ' ' :: rest => some rest
  | _ => none

/-- The instant of a local time, if the calendar has it. -/
def Timestamp.ofLocal (date : Date) (second nanos : Nat) (offset : Int) : Option Timestamp :=
  let universal := (second : Int) - offset
  let instant : Timestamp :=
    if universal < 0 then ⟨date.previous, (universal + 86400).toNat, nanos⟩
    else if 86400 ≤ universal then ⟨date.next, (universal - 86400).toNat, nanos⟩
    else ⟨date, universal.toNat, nanos⟩
  if instant.date.isValid then some instant else none

/-- A date, one of `T`, `t` and a space, a time, and an offset of less than a day. -/
def Timestamp.read (text : List Char) : Option Timestamp := do
  let (date, text) ← readDate text
  let text ← readJoin text
  let (second, nanos, text) ← readTime text
  let (offset, text) ← readOffset (dropBlanks text)
  if (dropBlanks text).isEmpty && offset.natAbs < 86400 then
    Timestamp.ofLocal date second nanos offset
  else none

end WorkspacePool.Calendar
