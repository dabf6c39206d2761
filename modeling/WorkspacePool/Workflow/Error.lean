import WorkspacePool.Pool.Error
import WorkspacePool.Provision.Error

/-!
Why an event could not be handled, and why a report could not be published.
-/

namespace WorkspacePool

inductive PublishError where
  | encode (text : String)
  | broker (text : String)
  | notConfirmed
deriving DecidableEq, Repr

namespace PublishError

def message : PublishError → String
  | .encode text => "encode error: " ++ text
  | .broker text => "broker error: " ++ text
  | .notConfirmed => "publish not confirmed by broker"

end PublishError

inductive WorkflowError where
  | pool (reason : PoolError)
  | provision (reason : ProvisionError)
deriving DecidableEq, Repr

namespace WorkflowError

def message : WorkflowError → String
  | .pool reason => "store error: " ++ reason.message
  | .provision reason => "provision error: " ++ reason.message

/-- Another attempt may succeed, unless the request is at fault or the pool is exhausted. -/
def deservesRetry : WorkflowError → Bool
  | .pool .emptyProject => false
  | .pool reason => !reason.isCapacity
  | .provision _ => true

end WorkflowError

end WorkspacePool
