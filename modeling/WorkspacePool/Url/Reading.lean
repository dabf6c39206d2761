import WorkspacePool.Text.Decimal
import WorkspacePool.Url.Basic

/-!
Reading URLs that stand by themselves. Control characters and spaces at the ends do not count, and
neither do tabs and line ends anywhere.
-/

namespace WorkspacePool.Url

/-- A character that is dropped from the ends of a URL. -/
def isEdge (character : Char) : Bool :=
  character.toNat ≤ 0x20

/-- The characters of a text that count in a URL. -/
def clean (text : String) : List Char :=
  ((text.toList.dropWhile isEdge).reverse.dropWhile isEdge).reverse.filter (!Path.isSkipped ·)

def isSchemeCharacter (character : Char) : Bool :=
  character.isAlphanum || ['+', '-', '.'].contains character

/-- The scheme of a URL in small letters, and what follows its colon. -/
def splitScheme? (text : List Char) : Option (String × List Char) := do
  let (name, rest) ← Text.splitFirst? ':' text
  if (name.head?.any Char.isAlpha) && name.all isSchemeCharacter then
    some (String.ofList (name.map Char.toLower), rest)
  else none

/-! ### Authority -/

/-- A host, and what stands from the colon behind it on. Colons in brackets belong to the host. -/
def splitHost : (inBrackets : Bool) → List Char → List Char × List Char
  | _, [] => ([], [])
  | inBrackets, first :: rest =>
      if first == ':' && !inBrackets then ([], first :: rest)
      else
        let (host, behind) :=
          splitHost (first == '[' || (inBrackets && first != ']')) rest
        (first :: host, behind)

/-- Read the port behind a host, and what of the text belongs to the path already. -/
def readPort (scheme : String) (text : List Char) : Except Fault (Option Nat × List Char) :=
  match text with
  | ':' :: text =>
      let (digits, rest) := Text.breakAt (!Text.Decimal.isDigit ·) text
      let port := Text.Decimal.ofDigits digits
      if port > 65535 ∨ (rest ≠ [] ∧ rest.head? ≠ some '\\') then .error .port
      else if digits = [] ∨ some port = defaultPort? scheme then .ok (none, rest)
      else .ok (some port, rest)
  | _ => .ok (none, text)

/-- The host of a URL that is no file's. Only schemes of the web cannot do without one. -/
def readHost (kind : SchemeKind) (text : List Char) : Except Fault (Option Host) :=
  if text = [] then
    if kind = .other then .ok none else .error .emptyHost
  else if kind = .other then some <$> Host.readOther text
  else some <$> Host.readSpecial text

/-- Read what follows two slashes: who asks whom, and the text of the path. Someone who asks has to
name a host, and so has a port. -/
def readAuthority (scheme : String) (kind : SchemeKind) (text : List Char) (isLast : Bool) :
    Except Fault (Authority × List Char) := do
  let (whole, path) := Text.breakAt kind.isSeparator text
  let (userinfo, place) := (Text.splitLast? '@' whole).getD ([], whole)
  let (username, password) := (Text.splitFirst? ':' userinfo).getD (userinfo, [])
  let (name, behind) := splitHost false place
  let host ← readHost kind name
  if host.isNone ∧ (behind ≠ [] ∨ username ≠ [] ∨ password ≠ [] ∨
      (whole = ['@'] ∧ ¬(isLast ∧ path = []))) then throw .emptyHost
  let (port, start) ← readPort scheme behind
  let part := fun text => String.ofList (Percent.encode Percent.reservedInUserinfo text)
  return (⟨part username, part password, host, port⟩, start ++ path)

/-! ### Files -/

/-- A letter with a colon or a bar behind it. -/
def isDrive (text : List Char) : Bool :=
  match text with
  | [letter, mark] => letter.isAlpha && (mark == ':' || mark == '|')
  | _ => false

/-- Read what follows two slashes in a file's URL: a host, unless it is a drive, and the path. -/
def readFileHost (text : List Char) : Except Fault (Option Host × List Char) := do
  let (name, path) := Text.breakAt SchemeKind.file.isSeparator text
  if name = [] then return (none, path)
  if isDrive name then return (none, text)
  let host ← Host.readSpecial name
  return (if host = .domain "localhost" then none else some host, path)

/-! ### The whole -/

/-- The segments of a path that may start with a slash. -/
def readPath (kind : SchemeKind) (text : List Char) : List String :=
  match text with
  | [] => if kind = .other then [] else Path.resolve kind.isSeparator []
  | first :: rest => Path.resolve kind.isSeparator (if kind.isSeparator first then rest else text)

/-- Read a text as a URL. -/
def read (text : String) : Except Fault Url := do
  let some (scheme, rest) := splitScheme? (clean text) | throw .relative
  let kind := SchemeKind.ofScheme scheme
  let (rest, fragment) := match Text.splitFirst? '#' rest with
    | some (before, behind) => (before, some behind)
    | none => (rest, none)
  let (rest, query) := match Text.splitFirst? '?' rest with
    | some (before, behind) => (before, some behind)
    | none => (rest, none)
  let isLast := query.isNone && fragment.isNone
  let query := query.map fun text => String.ofList (Percent.encode kind.reservedInQuery text)
  let fragment := fragment.map fun text =>
    String.ofList (Percent.encode Percent.reservedInFragment text)
  let located := fun authority path =>
    Url.located ⟨scheme, authority, readPath kind path, query, fragment⟩
  match kind, rest with
  | .web, _ =>
      let (authority, path) ← readAuthority scheme kind (rest.dropWhile kind.isSeparator) isLast
      return located authority path
  | .file, first :: second :: behind =>
      if kind.isSeparator first && kind.isSeparator second then
        let (host, path) ← readFileHost behind
        return located { Authority.anonymous with host } path
      else return located .anonymous rest
  | .file, _ => return located .anonymous rest
  | .other, '/' :: '/' :: behind =>
      let (authority, path) ← readAuthority scheme kind behind isLast
      return located authority path
  | .other, '/' :: _ => return located .anonymous rest
  | .other, _ =>
      let path := String.ofList (Percent.encode (fun _ => false) rest)
      return .rootless ⟨scheme, path, query, fragment⟩


end WorkspacePool.Url
