import WorkspacePool.Text.Combining
import WorkspacePool.Text.Unprintable

/-!
Quoted text for messages: what could not be read or would hide in the quotes is escaped.
-/

namespace WorkspacePool.Text.Quoted

/-- The digits of a number in lowercase hexadecimal. -/
def hexDigits (value : Nat) : List Char :=
  Nat.toDigits 16 value

/-- How a character is written between the quotes. -/
def character (char : Char) : List Char :=
  match char with
  | '\x00' => ['\\', '0']
  | '\t' => ['\\', 't']
  | '\r' => ['\\', 'r']
  | '\n' => ['\\', 'n']
  | '"' => ['\\', '"']
  | '\\' => ['\\', '\\']
  | _ =>
      if isCombining char || isUnprintable char then
        '\\' :: 'u' :: '\x7b' :: hexDigits char.toNat ++ ['\x7d']
      else [char]

def quote (text : String) : String :=
  String.ofList ('"' :: text.toList.flatMap character ++ ['"'])

end WorkspacePool.Text.Quoted
