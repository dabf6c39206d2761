import WorkspacePool.Text.Decimal

/-!
Writing JSON: members in their order and no space between tokens. In strings, quotes, backslashes
and control characters are escaped and nothing else is.
-/

namespace WorkspacePool.Json.Writer

/-- The lowercase hexadecimal digit of a number below sixteen. -/
def hexDigit (value : Nat) : Char :=
  if value < 10 then Char.ofNat (48 + value) else Char.ofNat (87 + value)

/-- How a character is written inside a string. -/
def character (char : Char) : List Char :=
  match char with
  | '"' => ['\\', '"']
  | '\\' => ['\\', '\\']
  | '\x08' => ['\\', 'b']
  | '\t' => ['\\', 't']
  | '\n' => ['\\', 'n']
  | '\x0c' => ['\\', 'f']
  | '\r' => ['\\', 'r']
  | _ =>
      if char.toNat < 32 then
        ['\\', 'u', '0', '0', hexDigit (char.toNat / 16), hexDigit (char.toNat % 16)]
      else [char]

def string (text : String) : List Char :=
  '"' :: text.toList.flatMap character ++ ['"']

def natural (value : Nat) : List Char :=
  Text.Decimal.digits value

def bool (value : Bool) : List Char :=
  if value then ['t', 'r', 'u', 'e'] else ['f', 'a', 'l', 's', 'e']

/-- Items with commas between them. -/
def separated : List (List Char) → List Char
  | [] => []
  | [item] => item
  | item :: rest => item ++ ',' :: separated rest

def array (elements : List (List Char)) : List Char :=
  '[' :: separated elements ++ [']']

def object (members : List (String × List Char)) : List Char :=
  '\x7b' :: separated (members.map fun (name, value) => string name ++ ':' :: value) ++ ['\x7d']

end WorkspacePool.Json.Writer
