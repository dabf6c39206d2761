import WorkspacePool.Docker.Settings
import WorkspacePool.Settings.Choice

/-!
Containers, one for each project: their names and the command lines that make them.
-/

namespace WorkspacePool.Docker

/-- ASCII letters and digits, underscores, points and dashes may stand in a container's name. -/
def isNameCharacter (character : Char) : Bool :=
  character.isAlphanum || character == '_' || character == '.' || character == '-'

/-- The name of a project's container: all else becomes a dash, and letters become small. -/
def containerName (settings : Settings) (projectId : String) : String :=
  settings.namePrefix ++ "-" ++ String.ofList (projectId.toList.map fun character =>
    if isNameCharacter character then character.toLower else '-')

/-- An environment variable for a container. -/
def setting (name value : String) : List String := ["-e", name ++ "=" ++ value]

/-- Arguments that start a project's container. -/
def runArguments (settings : Settings) (projectId gitRepoUrl : String) : List String :=
  ["run", "-d", "--name", containerName settings projectId, "-P"] ++
    setting "PROJECT_ID" projectId ++ setting "GIT_REPO_URL" gitRepoUrl ++
    setting "BROKER_URL" settings.brokerUrl ++ [settings.image]

/-- Arguments that clone a repository inside a project's container. -/
def cloneArguments (settings : Settings) (projectId gitRepoUrl : String) : List String :=
  ["exec", containerName settings projectId, "git", "clone", "--single-branch", "--depth", "1",
    gitRepoUrl, settings.workspaceDir]

def pullArguments (settings : Settings) : List String := ["pull", settings.image]

/-- Arguments that remove a project's container, also when it runs. -/
def removeArguments (settings : Settings) (projectId : String) : List String :=
  ["rm", "-f", containerName settings projectId]

end WorkspacePool.Docker
