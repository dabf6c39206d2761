import WorkspacePool.Codec
import WorkspacePool.Workflow.Events

/-!
Deliveries of the message queue: a body is decoded and handled, and then acknowledged or given back
to be delivered once more.
-/

namespace WorkspacePool.Workflow

inductive Settlement where
  | ack
  | requeue
deriving DecidableEq, Repr

/-- A body that cannot be decoded is dropped; so is a request that would fail again. -/
def settle (brokerUrl : String) (body : List UInt8) : Steps Settlement :=
  match Wire.ofBytes Event body with
  | none => return .ack
  | some event => do
      match ← handle brokerUrl event with
      | .ok _ => return .ack
      | .error reason => return if reason.deservesRetry then .requeue else .ack

end WorkspacePool.Workflow
