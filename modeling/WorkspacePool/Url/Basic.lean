import WorkspacePool.Url.Host
import WorkspacePool.Url.Path

/-!
URLs: those that locate something by a path of segments, and those whose path is one text that no
segment can be added to.
-/

namespace WorkspacePool

namespace Url

/-- How the rest of a URL is read. Schemes of the web need a host, files may have one, and both take
backslashes for slashes. -/
inductive SchemeKind where
  | web
  | file
  | other
deriving DecidableEq, Repr

namespace SchemeKind

def ofScheme (scheme : String) : SchemeKind :=
  if ["http", "https", "ws", "wss", "ftp"].contains scheme then .web
  else if scheme = "file" then .file
  else .other

def isSeparator (kind : SchemeKind) (character : Char) : Bool :=
  character == '/' || (kind != .other && character == '\\')

def reservedInQuery (kind : SchemeKind) : Char → Bool :=
  if kind = .other then Percent.reservedInQuery else Percent.reservedInSpecialQuery

def reservedInSegment (kind : SchemeKind) : Char → Bool :=
  if kind = .other then Percent.reservedInSegment else Percent.reservedInSpecialSegment

end SchemeKind

/-- The port that a scheme stands for by itself. -/
def defaultPort? (scheme : String) : Option Nat :=
  [("http", 80), ("https", 443), ("ws", 80), ("wss", 443), ("ftp", 21)].lookup scheme

/-- Who asks whom. -/
structure Authority where
  username : String
  password : String
  host : Option Host
  port : Option Nat
deriving DecidableEq, Repr

namespace Authority

def anonymous : Authority := ⟨"", "", none, none⟩

end Authority

/-- A URL with a path of segments. -/
structure Located where
  scheme : String
  authority : Authority
  path : List String
  query : Option String
  fragment : Option String
deriving DecidableEq, Repr

/-- A URL whose path is one text, such as `mailto:someone`. -/
structure Rootless where
  scheme : String
  path : String
  query : Option String
  fragment : Option String
deriving DecidableEq, Repr

/-- An optional part with the mark that tells it. -/
def marked (mark : String) : Option String → String
  | none => ""
  | some part => mark ++ part

namespace Rootless

def text (url : Rootless) : String :=
  url.scheme ++ ":" ++ url.path ++ marked "?" url.query ++ marked "#" url.fragment

end Rootless

namespace Located

/-- Put segments behind the path, in place of an empty segment at its end. -/
def extend (url : Located) (segments : List String) : Located :=
  let isReserved := (SchemeKind.ofScheme url.scheme).reservedInSegment
  { url with path := segments.foldl (Path.append isReserved) (Path.dropEmptyEnd url.path) }

/-- What a server is asked for: path and query. -/
def target (url : Located) : String :=
  Path.text url.path ++ marked "?" url.query

end Located

end Url

inductive Url where
  | located (url : Url.Located)
  | rootless (url : Url.Rootless)
deriving DecidableEq, Repr

end WorkspacePool
