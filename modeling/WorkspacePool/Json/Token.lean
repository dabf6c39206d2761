/-!
Tokens of JSON text. A string keeps its bytes and escapes as they are written, so that a string
nobody asks for may hold what is no text; a number keeps its digits.
-/

namespace WorkspacePool.Json

/-- One piece of a written string: a byte that stands for itself, or a 16-bit unit given by its
hexadecimal code. -/
inductive Piece where
  | byte (value : UInt8)
  | unit (code : Nat)
deriving DecidableEq, Repr

/-- A string as it is written between its quotes. -/
abbrev Quoted := List Piece

/-- A number as it is written. -/
abbrev Numeral := List UInt8

inductive Token where
  | openArray
  | closeArray
  | openObject
  | closeObject
  | comma
  | colon
  | null
  | bool (value : Bool)
  | number (numeral : Numeral)
  | string (quoted : Quoted)
deriving DecidableEq, Repr

namespace Token

def isSpace (byte : UInt8) : Bool :=
  byte == 32 || byte == 9 || byte == 10 || byte == 13

def isDigit (byte : UInt8) : Bool :=
  48 ≤ byte && byte ≤ 57

def hexValue? (byte : UInt8) : Option Nat :=
  if 48 ≤ byte && byte ≤ 57 then some (byte.toNat - 48)
  else if 97 ≤ byte && byte ≤ 102 then some (byte.toNat - 87)
  else if 65 ≤ byte && byte ≤ 70 then some (byte.toNat - 55)
  else none

/-- The unit that four hexadecimal digits name. -/
def unit? (a b c d : UInt8) : Option Nat := do
  let a ← hexValue? a
  let b ← hexValue? b
  let c ← hexValue? c
  let d ← hexValue? d
  some (((a * 16 + b) * 16 + c) * 16 + d)

/-- The byte that a letter behind a backslash stands for. -/
def escape? (byte : UInt8) : Option UInt8 :=
  match byte with
  | 34 => some 34
  | 92 => some 92
  | 47 => some 47
  | 98 => some 8
  | 102 => some 12
  | 110 => some 10
  | 114 => some 13
  | 116 => some 9
  | _ => none

/-- Read a string up to its closing quote. Control characters have to be escaped. -/
def readQuoted (done : Quoted) : List UInt8 → Option (Quoted × List UInt8)
  | [] => none
  | 34 :: rest => some (done.reverse, rest)
  | 92 :: 117 :: a :: b :: c :: d :: rest =>
      match unit? a b c d with
      | some code => readQuoted (.unit code :: done) rest
      | none => none
  | 92 :: letter :: rest =>
      match escape? letter with
      | some byte => readQuoted (.byte byte :: done) rest
      | none => none
  | byte :: rest => if byte < 32 || byte == 92 then none else readQuoted (.byte byte :: done) rest

/-- The digits a text starts with, at least one. -/
def readDigits (bytes : List UInt8) : Option (List UInt8 × List UInt8) :=
  match bytes.span isDigit with
  | ([], _) => none
  | (run, rest) => some (run, rest)

/-- The whole part of a number: a zero by itself, or digits that do not start with one. -/
def readWhole (bytes : List UInt8) : Option (List UInt8 × List UInt8) :=
  match bytes with
  | 48 :: rest => some ([48], rest)
  | _ => readDigits bytes

def readFraction (bytes : List UInt8) : Option (List UInt8 × List UInt8) :=
  match bytes with
  | 46 :: rest => (readDigits rest).map fun (run, left) => (46 :: run, left)
  | _ => some ([], bytes)

def readExponent (bytes : List UInt8) : Option (List UInt8 × List UInt8) :=
  match bytes with
  | mark :: rest =>
      if mark == 101 || mark == 69 then
        match rest with
        | 43 :: digits => (readDigits digits).map fun (run, left) => (mark :: 43 :: run, left)
        | 45 :: digits => (readDigits digits).map fun (run, left) => (mark :: 45 :: run, left)
        | digits => (readDigits digits).map fun (run, left) => (mark :: run, left)
      else some ([], bytes)
  | [] => some ([], [])

def readSign (bytes : List UInt8) : List UInt8 × List UInt8 :=
  match bytes with
  | 45 :: rest => ([45], rest)
  | _ => ([], bytes)

/-- Read a number: an optional minus sign, a whole part, a fraction and an exponent. -/
def readNumeral (bytes : List UInt8) : Option (Numeral × List UInt8) := do
  let (sign, bytes) := readSign bytes
  let (whole, bytes) ← readWhole bytes
  let (fraction, bytes) ← readFraction bytes
  let (exponent, bytes) ← readExponent bytes
  some (sign ++ whole ++ fraction ++ exponent, bytes)

/-- Read the token that a text starts with. -/
def read (bytes : List UInt8) : Option (Token × List UInt8) :=
  match bytes with
  | 91 :: rest => some (.openArray, rest)
  | 93 :: rest => some (.closeArray, rest)
  | 123 :: rest => some (.openObject, rest)
  | 125 :: rest => some (.closeObject, rest)
  | 44 :: rest => some (.comma, rest)
  | 58 :: rest => some (.colon, rest)
  | 110 :: 117 :: 108 :: 108 :: rest => some (.null, rest)
  | 116 :: 114 :: 117 :: 101 :: rest => some (.bool true, rest)
  | 102 :: 97 :: 108 :: 115 :: 101 :: rest => some (.bool false, rest)
  | 34 :: rest => (readQuoted [] rest).map fun (quoted, left) => (.string quoted, left)
  | _ => (readNumeral bytes).map fun (numeral, left) => (.number numeral, left)

/-- Read all tokens. The count bounds them, and a text has no more tokens than bytes. -/
def readAll (bound : Nat) (done : List Token) (bytes : List UInt8) : Option (List Token) :=
  match bytes.dropWhile isSpace with
  | [] => some done.reverse
  | bytes =>
      match bound with
      | 0 => none
      | bound + 1 =>
          match read bytes with
          | some (token, rest) => readAll bound (token :: done) rest
          | none => none

/-- The tokens of a text, white space left out. -/
def ofBytes (bytes : List UInt8) : Option (List Token) :=
  readAll bytes.length [] bytes

end Token

end WorkspacePool.Json
