import WorkspacePool.Text.Split
import WorkspacePool.Url.Percent

/-!
Addresses of four bytes. Up to four numbers with dots between them make one up; the last of them
fills the bytes that the others leave.
-/

namespace WorkspacePool.Url.Ipv4

/-- The number that digits count in a base. -/
def readDigits (base : Nat) (text : List Char) : Option Nat :=
  text.foldlM (fun value character => do
    let digit ← Percent.digitValue? character
    if digit < base then some (value * base + digit) else none) 0

/-- A number is hexadecimal behind `0x`, octal behind another zero, and else decimal. Behind `0x`
no digits at all count zero. -/
def readNumber : List Char → Option Nat
  | [] => none
  | '0' :: 'x' :: digits => readDigits 16 digits
  | '0' :: 'X' :: digits => readDigits 16 digits
  | ['0'] => some 0
  | '0' :: digits => readDigits 8 digits
  | digits => readDigits 10 digits

/-- The parts of an address. A dot may follow the last of them. -/
def parts (text : List Char) : List (List Char) :=
  let parts := Text.split (· == '.') text
  if parts.getLast? = some [] then parts.dropLast else parts

/-- Whether a name has to be an address, because its last part is a number. -/
def endsInNumber (text : List Char) : Bool :=
  match (parts text).getLast? with
  | none => false
  | some last =>
      (last ≠ [] && last.all fun character => '0' ≤ character && character ≤ '9') ||
        (readNumber last).isSome

/-- How many numbers some bytes can tell. -/
def capacity : (bytes : Nat) → Nat
  | 0 => 1
  | bytes + 1 => 256 * capacity bytes

/-- The address that numbers make up. -/
def ofNumbers? (numbers : List Nat) : Option Nat :=
  match numbers.reverse with
  | [] => none
  | last :: others =>
      let room := capacity (4 - others.length)
      if others.length < 4 && others.all (· < 256) && last < room then
        some (others.reverse.foldl (fun value byte => value * 256 + byte) 0 * room + last)
      else none

def read? (text : List Char) : Option Nat :=
  ((parts text).mapM readNumber).bind ofNumbers?

end WorkspacePool.Url.Ipv4
