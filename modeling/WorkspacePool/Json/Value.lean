import WorkspacePool.Json.Token

/-!
JSON values, and how tokens make them up. Reading keeps its open brackets on a stack of its own, so
that values may be nested to any depth.
-/

namespace WorkspacePool.Json

inductive Value where
  | null
  | bool (value : Bool)
  | number (numeral : Numeral)
  | string (quoted : Quoted)
  | array (elements : List Value)
  | object (members : List (Quoted × Value))
deriving Repr, Inhabited

namespace Quoted

/-- The character that two units of a surrogate pair make up. -/
def pairChar (high low : Nat) : Char :=
  Char.ofNat (0x10000 + (high - 0xD800) * 0x400 + (low - 0xDC00))

def isHigh (code : Nat) : Bool := 0xD800 ≤ code && code ≤ 0xDBFF

def isLow (code : Nat) : Bool := 0xDC00 ≤ code && code ≤ 0xDFFF

/-- The bytes of a string. Surrogates have to come in pairs. -/
def bytes : Quoted → Option (List UInt8)
  | [] => some []
  | .byte value :: rest => (value :: ·) <$> bytes rest
  | .unit high :: .unit low :: rest =>
      if isHigh high then
        if isLow low then (String.utf8EncodeChar (pairChar high low) ++ ·) <$> bytes rest else none
      else if isLow high then none
      else (String.utf8EncodeChar (Char.ofNat high) ++ ·) <$> bytes (.unit low :: rest)
  | .unit code :: rest =>
      if isHigh code || isLow code then none
      else (String.utf8EncodeChar (Char.ofNat code) ++ ·) <$> bytes rest

/-- The text of a string, unless it holds lone surrogates or bytes that are no UTF-8. -/
def text? (quoted : Quoted) : Option String := do
  String.fromUTF8? (← bytes quoted).toByteArray

end Quoted

namespace Numeral

/-- The value of a number that is written with digits alone. -/
def natural? (numeral : Numeral) : Option Nat :=
  if numeral.all Token.isDigit && !numeral.isEmpty then
    some (numeral.foldl (fun value digit => value * 10 + (digit.toNat - 48)) 0)
  else none

/-- The value of a number that is written with digits alone, or with a minus sign and digits that
do not make up zero. -/
def integer? (numeral : Numeral) : Option Int :=
  match numeral with
  | 45 :: digits =>
      (natural? digits).bind fun size => if size == 0 then none else some (-(size : Int))
  | digits => (natural? digits).map fun size => (size : Int)

end Numeral

namespace Value

/-- An array or object whose end has not been read yet, its parts in reverse. -/
inductive Frame where
  | array (done : List Value)
  | object (done : List (Quoted × Value)) (key : Quoted)
deriving Repr

/-- What comes next: a value, or what follows the value just read. -/
inductive Phase where
  | value
  | after (value : Value)
deriving Repr

/-- Read one value from tokens, all of them. -/
def readTokens : Phase → List Frame → List Token → Option Value
  | .value, stack, .openArray :: .closeArray :: rest => readTokens (.after (.array [])) stack rest
  | .value, stack, .openArray :: rest => readTokens .value (.array [] :: stack) rest
  | .value, stack, .openObject :: .closeObject :: rest =>
      readTokens (.after (.object [])) stack rest
  | .value, stack, .openObject :: .string key :: .colon :: rest =>
      readTokens .value (.object [] key :: stack) rest
  | .value, stack, .null :: rest => readTokens (.after .null) stack rest
  | .value, stack, .bool value :: rest => readTokens (.after (.bool value)) stack rest
  | .value, stack, .number numeral :: rest => readTokens (.after (.number numeral)) stack rest
  | .value, stack, .string quoted :: rest => readTokens (.after (.string quoted)) stack rest
  | .after value, [], [] => some value
  | .after value, .array done :: stack, .comma :: rest =>
      readTokens .value (.array (value :: done) :: stack) rest
  | .after value, .array done :: stack, .closeArray :: rest =>
      readTokens (.after (.array (value :: done).reverse)) stack rest
  | .after value, .object done key :: stack, .comma :: .string next :: .colon :: rest =>
      readTokens .value (.object ((key, value) :: done) next :: stack) rest
  | .after value, .object done key :: stack, .closeObject :: rest =>
      readTokens (.after (.object ((key, value) :: done).reverse)) stack rest
  | _, _, _ => none

/-- Read a JSON text. -/
def ofBytes (bytes : List UInt8) : Option Value :=
  (Token.ofBytes bytes).bind (readTokens .value [])

def ofString (text : String) : Option Value :=
  ofBytes text.toUTF8.data.toList

end Value

end WorkspacePool.Json
