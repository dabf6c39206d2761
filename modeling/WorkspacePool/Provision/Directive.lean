import WorkspacePool.Assignment

/-!
What provisioners are told to do. One family keeps a pool of slots and sets them up for projects;
the other makes a workspace for each project and knows nothing of slots.
-/

namespace WorkspacePool

inductive ProvisionFamily where
  | slotPool
  | perProject
deriving DecidableEq, Repr

/-- One call on a provisioner. -/
inductive Directive where
  | ensureSlots (count : UInt32)
  | assign (slot : SlotId) (assignment : Assignment)
  | release (slot : SlotId)
  | provision (projectId gitRepoUrl : String)
  | deprovision (projectId : String)
deriving DecidableEq, Repr

namespace ProvisionFamily

def name : ProvisionFamily → String
  | .slotPool => "slot-pool"
  | .perProject => "per-project"

/-- What has to be done before the first assignment. -/
def prepare (family : ProvisionFamily) (count : UInt32) : Option Directive :=
  match family with
  | .slotPool => some (.ensureSlots count)
  | .perProject => none

def assign (family : ProvisionFamily) (slot : SlotId) (assignment : Assignment) : Directive :=
  match family with
  | .slotPool => .assign slot assignment
  | .perProject => .provision assignment.projectId assignment.gitRepoUrl

def release (family : ProvisionFamily) (slot : SlotId) (projectId : String) : Directive :=
  match family with
  | .slotPool => .release slot
  | .perProject => .deprovision projectId

end ProvisionFamily

end WorkspacePool
