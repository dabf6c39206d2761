import WorkspacePool.Slot

/-!
Reasons for which the pool refuses an operation, and the one place that words them.
-/

namespace WorkspacePool

/-- What was looked for in vain. -/
inductive Absence where
  | slot (id : SlotId)
  | busy (id : SlotId)
  | holder (projectId : String)
  | stillHeld (id : SlotId) (projectId : String)
  | described (text : String)
deriving DecidableEq, Repr

namespace Absence

def message : Absence → String
  | .slot id => "slot " ++ id.text
  | .busy id => "slot " ++ id.text ++ " is already busy"
  | .holder projectId => "no slot holds project " ++ projectId
  | .stillHeld id projectId => "slot " ++ id.text ++ " no longer holds project " ++ projectId
  | .described text => text

end Absence

inductive PoolError where
  | noSlotsAvailable
  | queueFull (capacity : Nat)
  | notFound (absence : Absence)
  | alreadyAssigned (projectId : String) (slot : SlotId)
  | emptyProject
  | invalidStatus (slot : SlotId) (status : SlotStatus)
deriving DecidableEq, Repr

namespace PoolError

def message : PoolError → String
  | .noSlotsAvailable => "no slots available"
  | .queueFull capacity => "queue full (" ++ toString capacity ++ " requests waiting)"
  | .notFound absence => "not found: " ++ absence.message
  | .alreadyAssigned projectId slot =>
      "project " ++ projectId ++ " already holds slot " ++ slot.text
  | .emptyProject => "project id must not be empty"
  | .invalidStatus slot status => "slot " ++ slot.text ++ " cannot be marked " ++ status.name

/-- The pool is exhausted, which says nothing against the request. -/
def isCapacity : PoolError → Bool
  | .noSlotsAvailable | .queueFull _ => true
  | _ => false

def isNotFound : PoolError → Bool
  | .notFound _ => true
  | _ => false

end PoolError

end WorkspacePool
