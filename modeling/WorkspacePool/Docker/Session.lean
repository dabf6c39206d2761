import WorkspacePool.Dialogue
import WorkspacePool.Docker.Container
import WorkspacePool.Provision.Error
import WorkspacePool.Text.Blank

/-!
What is done with containers: a session runs one command after the other and sees how each ended.
-/

namespace WorkspacePool.Docker

/-- How a command ended. -/
inductive Outcome where
  | exited (code : Nat) (stderr : String)
  /-- The command could not be run at all. -/
  | notStarted (reason : String)
deriving DecidableEq, Repr

/-- A session asks for commands to be run, each given by its arguments. -/
abbrev Session (α : Type) := Dialogue (fun _ : List String => Outcome) α

/-- A command line cannot hold the NUL character. -/
def isPassable (arguments : List String) : Bool :=
  arguments.all fun argument => !argument.toList.contains '\x00'

/-- Why a command counts as failed. -/
def failure? (arguments : List String) : Outcome → Option String
  | .exited 0 _ => none
  | .exited _ stderr => some ("docker " ++ arguments.headD "" ++ " failed: " ++ Text.trim stderr)
  | .notStarted reason => some ("failed to exec docker: " ++ reason)

/-- Run a command and tell why it failed, if it did. -/
def run (arguments : List String) : Session (Option String) :=
  if isPassable arguments then do
    return failure? arguments (← Dialogue.question arguments)
  else return failure? arguments (.notStarted "nul byte found in provided data")

/-- Make a project's workspace. Only starting the container has to succeed: an image that cannot be
pulled may be there already, a container that cannot be removed may never have been there, and a
workspace whose repository cannot be cloned is empty. -/
def provision (settings : Settings) (projectId gitRepoUrl : String) :
    Session (Except ProvisionError Unit) := do
  let _ ← run (pullArguments settings)
  let _ ← run (removeArguments settings projectId)
  match ← run (runArguments settings projectId gitRepoUrl) with
  | some reason => return .error (.docker ("docker run failed: " ++ reason))
  | none =>
      if gitRepoUrl != "" then
        let _ ← run (cloneArguments settings projectId gitRepoUrl)
      return .ok ()

/-- Whether a text occurs in another. -/
def occursIn (part : List Char) : List Char → Bool
  | [] => part.isEmpty
  | first :: rest => part.isPrefixOf (first :: rest) || occursIn part rest

/-- What is said of a container that is not there. -/
def absentNote : String := "No such container"

/-- Remove a project's workspace. One that is not there counts as removed. -/
def deprovision (settings : Settings) (projectId : String) :
    Session (Except ProvisionError Unit) := do
  match ← run (removeArguments settings projectId) with
  | none => return .ok ()
  | some reason =>
      if occursIn absentNote.toList reason.toList then return .ok ()
      else return .error (.docker reason)

/-- Run a session against commands that end as a rule says, and note which could be run. -/
def Session.against {α : Type} (outcome : List String → Outcome) :
    Session α → α × List (List String)
  | .done result => (result, [])
  | .ask arguments next =>
      let (result, commands) := Session.against outcome (next (outcome arguments))
      match outcome arguments with
      | .exited _ _ => (result, arguments :: commands)
      | .notStarted _ => (result, commands)

end WorkspacePool.Docker
