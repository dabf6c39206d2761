import WorkspacePool.Text.Split
import WorkspacePool.Url.Percent

/-!
Paths of segments. A segment of one dot names the place it stands in and a segment of two dots the
place above; neither stays in a path. A path that ends in a slash has an empty segment at its end.
-/

namespace WorkspacePool.Url.Path

/-- What follows a dot, which may be written as an escape. -/
def afterDot? : List Char → Option (List Char)
  | '.' :: rest => some rest
  | '%' :: '2' :: 'e' :: rest => some rest
  | '%' :: '2' :: 'E' :: rest => some rest
  | _ => none

/-- A segment of one dot. -/
def isSelf (segment : List Char) : Bool :=
  afterDot? segment == some []

/-- A segment of two dots. -/
def isParent (segment : List Char) : Bool :=
  (afterDot? segment).bind afterDot? == some []

/-- The path behind segments already resolved, those in reverse. Where dots come last, what they
name is a place to go on from, so an empty segment follows. -/
def resolveFrom (done : List String) : List (List Char) → List String
  | [] => done.reverse
  | segment :: rest =>
      if isParent segment then
        if rest = [] then ("" :: done.tail).reverse else resolveFrom done.tail rest
      else if isSelf segment then
        if rest = [] then ("" :: done).reverse else resolveFrom done rest
      else
        resolveFrom (String.ofList (Percent.encode Percent.reservedInPath segment) :: done) rest

/-- The path that a text of segments makes up, without the slash it starts with. -/
def resolve (isSeparator : Char → Bool) (text : List Char) : List String :=
  resolveFrom [] (Text.split isSeparator text)

/-- A path without the empty segment at its end. The root has to keep it. -/
def dropEmptyEnd (path : List String) : List String :=
  if path.length ≠ 1 ∧ path.getLast? = some "" then path.dropLast else path

/-- What a further segment is put behind. Nothing stands in the root. -/
def stem (path : List String) : List String :=
  if path = [""] then [] else path

/-- Characters that no URL keeps. -/
def isSkipped (character : Char) : Bool :=
  character == '\t' || character == '\n' || character == '\r'

/-- Put a text behind a path as one segment. Single and double dots are left out; a text that turns
into them once its skipped characters are gone names a place. -/
def append (isReserved : Char → Bool) (path : List String) (text : String) : List String :=
  if text = "." ∨ text = ".." then path
  else
    let segment := Percent.encode isReserved (text.toList.filter (!isSkipped ·))
    if isParent segment then (stem path).dropLast ++ [""]
    else if isSelf segment then stem path ++ [""]
    else stem path ++ [String.ofList segment]

/-- The text of a path: a slash before each segment. -/
def text (path : List String) : String :=
  String.join (path.map ("/" ++ ·))

end WorkspacePool.Url.Path
