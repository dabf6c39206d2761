/-!
Texts cut at separators, and put together with separators between the parts.
-/

namespace WorkspacePool.Text

/-- The parts of a text between the separators. There is always one part more than separators. -/
def split (isSeparator : Char → Bool) : List Char → List (List Char)
  | [] => [[]]
  | first :: rest =>
      if isSeparator first then [] :: split isSeparator rest
      else
        match split isSeparator rest with
        | part :: parts => (first :: part) :: parts
        | [] => [[first]]

/-- The parts of a text with a separator between any two of them. -/
def join (separator : List Char) : List (List Char) → List Char
  | [] => []
  | [part] => part
  | part :: parts => part ++ separator ++ join separator parts

/-- What stands before the first character of a kind, and what stands from it on. -/
def breakAt (isEnd : Char → Bool) (text : List Char) : List Char × List Char :=
  (text.takeWhile (!isEnd ·), text.dropWhile (!isEnd ·))

/-- What stands before and behind the first of a character. -/
def splitFirst? (separator : Char) (text : List Char) : Option (List Char × List Char) :=
  match breakAt (· == separator) text with
  | (before, _ :: behind) => some (before, behind)
  | (_, []) => none

/-- What stands before and behind the last of a character. -/
def splitLast? (separator : Char) (text : List Char) : Option (List Char × List Char) :=
  (splitFirst? separator text.reverse).map fun (behind, before) =>
    (before.reverse, behind.reverse)

end WorkspacePool.Text
