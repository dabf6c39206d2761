import WorkspacePool.Calendar.Timestamp
import WorkspacePool.Request

/-!
Events of the message queue, each of which asks for something to be done with a workspace.
-/

namespace WorkspacePool

/-- What an event asks for. A kind that is not known is told apart from the others and nothing
more. -/
inductive EventKind where
  | createRequested
  | releaseRequested
  | pauseRequested
  | unknown
deriving DecidableEq, Repr, Inhabited

namespace EventKind

def name : EventKind → String
  | .createRequested => "CREATE_REQUESTED"
  | .releaseRequested => "RELEASE_REQUESTED"
  | .pauseRequested => "PAUSE_REQUESTED"
  | .unknown => "UNKNOWN"

def ofName (name : String) : EventKind :=
  ([.createRequested, .releaseRequested, .pauseRequested].find? (·.name == name)).getD .unknown

end EventKind

structure Event where
  kind : EventKind
  timestamp : Calendar.Timestamp
  payload : Payload
deriving DecidableEq, Repr, Inhabited

end WorkspacePool
