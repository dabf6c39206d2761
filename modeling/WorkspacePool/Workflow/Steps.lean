import WorkspacePool.Assignment
import WorkspacePool.Dialogue
import WorkspacePool.Event
import WorkspacePool.Pool.Operation
import WorkspacePool.Report
import WorkspacePool.Token.Error
import WorkspacePool.Workflow.Error

/-!
The steps that an operation on the pool's workspaces takes. A step is one indivisible use of the
pool, a look at the clock, or a call on a collaborator. Other callers may act before any step, and a
collaborator answers as it likes, so what an operation may do is told by its steps alone.
-/

namespace WorkspacePool.Workflow

/-- A call on a collaborator: the status publisher, the provisioner or the token provider. -/
inductive Call where
  | publish (report : Report)
  | assign (slot : SlotId) (assignment : Assignment)
  | release (slot : SlotId) (projectId : String)
  | lookUpToken (userId : String)
deriving DecidableEq, Repr

namespace Call

/-- What a collaborator may answer. -/
@[reducible] def Answer : Call → Type
  | .publish _ => Except PublishError Unit
  | .assign _ _ => Except ProvisionError Unit
  | .release _ _ => Except ProvisionError Unit
  | .lookUpToken _ => Except TokenError String

end Call

inductive Step where
  | readClock
  | usePool (op : PoolOp)
  | call (asked : Call)
deriving DecidableEq, Repr

namespace Step

/-- What a step comes back with. -/
@[reducible] def Answer : Step → Type
  | .readClock => Millis
  | .usePool op => op.Reply
  | .call asked => asked.Answer

end Step

/-- An operation, step by step. -/
abbrev Steps (α : Type) := Dialogue Step.Answer α

namespace Steps

/-- Look at the clock. -/
def now : Steps Millis := Dialogue.question Step.readClock

/-- Use the pool once. -/
def usePool (op : PoolOp) : Steps op.Reply := Dialogue.question (Step.usePool op)

/-- Call a collaborator and wait for its answer. -/
def call (asked : Call) : Steps asked.Answer := Dialogue.question (Step.call asked)

end Steps

end WorkspacePool.Workflow
