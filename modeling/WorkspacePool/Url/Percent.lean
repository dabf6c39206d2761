/-!
Percent-encoding: bytes written as a percent sign and two capital hexadecimal digits. What needs it
depends on the place in a URL; control characters and characters beyond ASCII need it everywhere.
-/

namespace WorkspacePool.Url

namespace Percent

/-- The digit that counts a number below sixteen. -/
def digit (value : Nat) : Char :=
  if value < 10 then Char.ofNat ('0'.toNat + value) else Char.ofNat ('A'.toNat + (value - 10))

/-- What a hexadecimal digit of either case counts. -/
def digitValue? (character : Char) : Option Nat :=
  if '0' ≤ character ∧ character ≤ '9' then some (character.toNat - '0'.toNat)
  else if 'A' ≤ character ∧ character ≤ 'F' then some (character.toNat - 'A'.toNat + 10)
  else if 'a' ≤ character ∧ character ≤ 'f' then some (character.toNat - 'a'.toNat + 10)
  else none

def escape (byte : UInt8) : List Char :=
  ['%', digit (byte.toNat / 16), digit (byte.toNat % 16)]

def isControl (character : Char) : Bool :=
  character.toNat < 0x20 || character.toNat == 0x7F

/-- Characters that are never written plainly. -/
def isAlwaysEscaped (character : Char) : Bool :=
  isControl character || 0x80 ≤ character.toNat

def encodeChar (isReserved : Char → Bool) (character : Char) : List Char :=
  if isAlwaysEscaped character || isReserved character then
    (String.utf8EncodeChar character).flatMap escape
  else [character]

/-- A text with its reserved characters escaped. -/
def encode (isReserved : Char → Bool) (text : List Char) : List Char :=
  text.flatMap (encodeChar isReserved)

/-- The bytes that a text stands for. A percent sign without two digits stands for itself. -/
def decode : List Char → List UInt8
  | [] => []
  | '%' :: high :: low :: rest =>
      match digitValue? high, digitValue? low with
      | some upper, some lower => UInt8.ofNat (upper * 16 + lower) :: decode rest
      | _, _ => 0x25 :: decode (high :: low :: rest)
  | first :: rest => String.utf8EncodeChar first ++ decode rest

theorem digitValue_digit {value : Nat} (small : value < 16) :
    digitValue? (digit value) = some value := by
  have all : ∀ value ∈ List.range 16, digitValue? (digit value) = some value := by decide
  exact all value (List.mem_range.mpr small)

/-- An escaped byte is read back, whatever follows it. -/
theorem decode_escape (byte : UInt8) (rest : List Char) :
    decode (escape byte ++ rest) = byte :: decode rest := by
  have small : byte.toNat < 256 := byte.toNat_lt
  simp only [escape, List.cons_append, List.nil_append, decode]
  rw [digitValue_digit (by omega), digitValue_digit (by omega)]
  simp only [List.cons.injEq, and_true]
  rw [show byte.toNat / 16 * 16 + byte.toNat % 16 = byte.toNat by omega]
  simp

theorem decode_escapes (bytes : List UInt8) (rest : List Char) :
    decode (bytes.flatMap escape ++ rest) = bytes ++ decode rest := by
  induction bytes with
  | nil => rfl
  | cons byte others ih =>
      rw [List.flatMap_cons, List.append_assoc, decode_escape, ih, List.cons_append]

theorem decode_cons {first : Char} (plain : first ≠ '%') (rest : List Char) :
    decode (first :: rest) = String.utf8EncodeChar first ++ decode rest := by
  rw [decode.eq_def]
  split <;> simp_all

/-- Where the percent sign itself is reserved, decoding gives the encoded text back. -/
theorem decode_encode {isReserved : Char → Bool} (percent : isReserved '%' = true)
    (text : List Char) :
    decode (encode isReserved text) = text.flatMap String.utf8EncodeChar := by
  induction text with
  | nil => rfl
  | cons first rest ih =>
      simp only [encode, List.flatMap_cons] at ih ⊢
      by_cases escaped : (isAlwaysEscaped first || isReserved first) = true
      · rw [encodeChar, if_pos escaped, decode_escapes, ih]
      · have plain : first ≠ '%' := by
          rintro rfl
          simp [percent] at escaped
        rw [encodeChar, if_neg escaped, List.singleton_append, decode_cons plain, ih]

/-! ### What is reserved where -/

def reservedInFragment (character : Char) : Bool :=
  [' ', '"', '<', '>', '`'].contains character

def reservedInQuery (character : Char) : Bool :=
  [' ', '"', '#', '<', '>'].contains character

/-- In the query of a URL with a well-known scheme. -/
def reservedInSpecialQuery (character : Char) : Bool :=
  reservedInQuery character || character == '\''

def reservedInPath (character : Char) : Bool :=
  reservedInFragment character || ['#', '?', '\x7b', '\x7d'].contains character

/-- In one segment of a path, where no character may end it. -/
def reservedInSegment (character : Char) : Bool :=
  reservedInPath character || character == '/' || character == '%'

/-- In one segment of a path whose segments a backslash ends as well. -/
def reservedInSpecialSegment (character : Char) : Bool :=
  reservedInSegment character || character == '\\'

def reservedInUserinfo (character : Char) : Bool :=
  reservedInPath character ||
    ['/', ':', ';', '=', '@', '[', '\\', ']', '^', '|'].contains character

end Percent

end WorkspacePool.Url
