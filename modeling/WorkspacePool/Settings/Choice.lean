/-!
Choices among a few names. Case does not matter, for ASCII letters only.
-/

namespace WorkspacePool.Settings

/-- A text with its ASCII capitals made small. -/
def lowercase (text : String) : String :=
  String.ofList (text.toList.map Char.toLower)

/-- What workspaces are made with. -/
inductive Backend where
  | kubernetes
  | docker
deriving DecidableEq, Repr, Inhabited

namespace Backend

def name : Backend → String
  | .kubernetes => "kubernetes"
  | .docker => "docker"

def ofName? (text : String) : Option Backend :=
  match lowercase text with
  | "kubernetes" | "k8s" => some .kubernetes
  | "docker" => some .docker
  | _ => none

end Backend

inductive LogFormat where
  | text
  | json
deriving DecidableEq, Repr, Inhabited

namespace LogFormat

def name : LogFormat → String
  | .text => "text"
  | .json => "json"

def ofName? (text : String) : Option LogFormat :=
  match lowercase text with
  | "text" | "pretty" => some .text
  | "json" => some .json
  | _ => none

end LogFormat

end WorkspacePool.Settings
