import WorkspacePool.Text.Combining
import WorkspacePool.Text.Unprintable
import WorkspacePool.Url.Punycode

/-!
Domain names. Case and width of ASCII letters do not matter, characters that leave no trace are
dropped, and every label has to be readable: no character in it may be unprintable or mean something
else in a URL, it may not start with a combining character, and if it is a coded one it has to stand
for a readable label that could not be written plainly.
-/

namespace WorkspacePool.Url.Domain

/-- Characters that leave no trace in a domain name. -/
def isIgnored (character : Char) : Bool :=
  let code := character.toNat
  [0xAD, 0x34F, 0x180F, 0x200B, 0x2060, 0x2064, 0xFEFF].contains code ||
    (0x180B ≤ code && code ≤ 0x180D) || (0xFE00 ≤ code && code ≤ 0xFE0F) ||
    (0x1BCA0 ≤ code && code ≤ 0x1BCA3) || (0xE0100 ≤ code && code ≤ 0xE01EF)

/-- Full stops of other scripts, which separate labels as well. -/
def isForeignStop (character : Char) : Bool :=
  ['\u3002', '\uFF61'].contains character

/-- The ASCII character that a full-width one stands for, and any other character itself. -/
def narrow (character : Char) : Char :=
  let code := character.toNat
  if 0xFF01 ≤ code && code ≤ 0xFF5E then Char.ofNat (code - 0xFEE0)
  else if code == 0x3000 then ' '
  else if isForeignStop character then '.'
  else character

/-- ASCII characters that a domain name may not hold. -/
def isForbidden (character : Char) : Bool :=
  character.toNat ≤ 0x20 || character.toNat == 0x7F ||
    ['#', '%', '/', ':', '<', '>', '?', '@', '[', '\\', ']', '^', '|'].contains character

def isReadable (character : Char) : Bool :=
  !isForbidden character && !Text.isUnprintable character

/-- A label that may be written without coding it. -/
def isPlainLabel (label : List Char) : Bool :=
  label.all isReadable && !(label.head?.any Text.isCombining)

/-- What a coded label starts with. -/
def codeMark : List Char := ['x', 'n', '-', '-']

/-- A label that is plain, and if it is coded stands for a plain one beyond ASCII. -/
def isLabel (label : List Char) : Bool :=
  isPlainLabel label &&
    (if codeMark.isPrefixOf label then
      match Punycode.decode? (label.drop codeMark.length) with
      | none => false
      | some decoded => isPlainLabel decoded && decoded.any (0x80 ≤ ·.toNat)
    else true)

/-- The name that a text stands for, if all labels of it are readable. -/
def read? (text : List Char) : Option (List Char) :=
  let name := (text.filter (!isIgnored ·)).map fun character => (narrow character).toLower
  if (Text.split (· == '.') name).all isLabel then some name else none

end WorkspacePool.Url.Domain
