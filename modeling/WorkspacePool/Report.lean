import WorkspacePool.Calendar.Timestamp

/-!
Reports on workspaces, and the status events that they are published as.
-/

namespace WorkspacePool

/-- What is reported about a workspace. -/
inductive WorkspaceStatus where
  | queued
  | provisioning
  | running
  | pausing
  | paused
  | released
  | failed
deriving DecidableEq, Repr, Inhabited

namespace WorkspaceStatus

def name : WorkspaceStatus → String
  | .queued => "QUEUED"
  | .provisioning => "PROVISIONING"
  | .running => "RUNNING"
  | .pausing => "PAUSING"
  | .paused => "PAUSED"
  | .released => "RELEASED"
  | .failed => "FAILED"

def all : List WorkspaceStatus :=
  [.queued, .provisioning, .running, .pausing, .paused, .released, .failed]

end WorkspaceStatus

/-- One report on a project's workspace to a session. -/
structure Report where
  sessionId : String
  projectId : String
  status : WorkspaceStatus
  message : String
deriving DecidableEq, Repr, Inhabited

/-- A report as it is published. -/
structure StatusEvent where
  timestamp : Calendar.Timestamp
  report : Report
deriving DecidableEq, Repr, Inhabited

namespace StatusEvent

/-- The name of the only kind of status event. -/
def kindName : String := "STATUS_UPDATED"

/-- The key under which status events are routed. -/
def routingKey : String := "status.updated"

end StatusEvent

end WorkspacePool
