import WorkspacePool.Slot

/-!
What a workspace is asked for: a payload comes with an event, and a request waits in the queue.
-/

namespace WorkspacePool

/-- What an event says about a workspace. A field that is not given is empty. -/
structure Payload where
  projectId : String
  userId : String
  gitRepoUrl : String
  sessionId : String
  githubToken : String
  targetBranch : String
deriving DecidableEq, Repr, Inhabited

namespace Payload

def blank : Payload := ⟨"", "", "", "", "", ""⟩

end Payload

/-- A request for a workspace, as it waits in the queue. -/
structure Request where
  projectId : String
  userId : String
  gitRepoUrl : String
  sessionId : String
  githubToken : String
  targetBranch : String
  queuedAt : Millis
deriving DecidableEq, Repr, Inhabited

namespace Request

def ofPayload (payload : Payload) (queuedAt : Millis) : Request :=
  { projectId := payload.projectId
    userId := payload.userId
    gitRepoUrl := payload.gitRepoUrl
    sessionId := payload.sessionId
    githubToken := payload.githubToken
    targetBranch := payload.targetBranch
    queuedAt }

end Request

end WorkspacePool
