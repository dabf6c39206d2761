import WorkspacePool.Request
import WorkspacePool.Text.Blank

/-!
Assignments: what a provisioner sets up the workspace of a slot with.
-/

namespace WorkspacePool

/-- What a slot's workspace is set up with. -/
structure Assignment where
  projectId : String
  sessionId : String
  gitRepoUrl : String
  githubToken : String
  brokerUrl : String
  targetBranch : String
deriving DecidableEq, Repr, Inhabited

namespace Assignment

/-- The directive that leaves a slot without any tenant. -/
def blank : Assignment := ⟨"", "", "", "", "", ""⟩

def isBlank (assignment : Assignment) : Bool :=
  assignment == blank

/-- The branch that is checked out when a request names none. -/
def defaultBranch : String := "main"

/-- A branch that is blank is the default one; any other is kept as it is, blanks at its ends
included. -/
def branchOf (targetBranch : String) : String :=
  if Text.isBlankText targetBranch then defaultBranch else targetBranch

def ofRequest (request : Request) (brokerUrl : String) : Assignment :=
  { projectId := request.projectId
    sessionId := request.sessionId
    gitRepoUrl := request.gitRepoUrl
    githubToken := request.githubToken
    brokerUrl
    targetBranch := branchOf request.targetBranch }

end Assignment

end WorkspacePool
