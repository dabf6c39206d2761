import WorkspacePool.Dialogue
import WorkspacePool.Kubernetes.Template
import WorkspacePool.Provision.Error
import WorkspacePool.Workflow.Ticker

/-!
Pods cannot be changed while they run, so a slot's pod is deleted and created anew for every
assignment. What is asked of the cluster is a dialogue, in which a clock is read to tell when a wait
has taken too long.
-/

namespace WorkspacePool.Kubernetes

/-- A call on the cluster. -/
inductive PodCall where
  | get (name : String)
  | create (pod : Pod)
  | delete (name : String)
deriving Repr

namespace PodCall

/-- Getting a pod finds it or not, and deleting one tells whether it was there. -/
@[reducible] def Answer : PodCall → Type
  | .get _ => Except ProvisionError (Option Pod)
  | .create _ => Except ProvisionError Unit
  | .delete _ => Except ProvisionError Bool

end PodCall

inductive PodQuery where
  | call (asked : PodCall)
  | readClock
  | sleep (span : Span)
deriving Repr

namespace PodQuery

/-- The clock tells how much time has passed since it was started. -/
@[reducible] def Answer : PodQuery → Type
  | .call asked => asked.Answer
  | .readClock => Span
  | .sleep _ => Unit

end PodQuery

abbrev PodDialogue (α : Type) := Dialogue PodQuery.Answer α

namespace PodDialogue

def get (name : String) : PodDialogue (Except ProvisionError (Option Pod)) :=
  Dialogue.question (PodQuery.call (.get name))

def create (pod : Pod) : PodDialogue (Except ProvisionError Unit) :=
  Dialogue.question (PodQuery.call (.create pod))

def delete (name : String) : PodDialogue (Except ProvisionError Bool) :=
  Dialogue.question (PodQuery.call (.delete name))

def now : PodDialogue Span :=
  Dialogue.question PodQuery.readClock

def sleep (span : Span) : PodDialogue Unit :=
  Dialogue.question (PodQuery.sleep span)

end PodDialogue

/-! ### Waiting -/

/-- Why a wait came to nothing. -/
inductive Unsettled where
  /-- The moment that it would take until cannot be told. -/
  | crashed
  /-- It polls without a pause, and was given up. -/
  | givenUp
deriving DecidableEq, Repr

/-- What a wait came to. -/
inductive Settled (α : Type) where
  | settled (result : α)
  | unsettled {reason : Unsettled}
deriving DecidableEq, Repr

namespace Settled

variable {α : Type}

@[match_pattern] abbrev crashed : Settled α := @unsettled α .crashed

@[match_pattern] abbrev givenUp : Settled α := @unsettled α .givenUp

end Settled

/-- Something to wait for in a cluster. -/
structure Wait where
  /-- The name of the pod that is looked up. -/
  pod : String
  /-- Whether a lookup shows that the wait is over. -/
  isOver : Option Pod → Bool
  timeout : Span
  /-- What is said to be missing when time is up. -/
  what : String

namespace Wait

/-- How many lookups settle a wait at most: one at the start and one after every pause until time is
up. Without a pause between them no number does, and the wait is given up after `patience` of
them. -/
def lookups (timeout poll : Span) (patience : Nat) : Nat :=
  if poll.millis = 0 then patience else (timeout.millis + poll.millis - 1) / poll.millis + 1

/-- Look up, see whether the deadline is reached, pause, and look up again. A lookup that fails
shows nothing. -/
def run (wait : Wait) (poll : Span) (deadline : Nat) :
    (lookups : Nat) → PodDialogue (Settled (Except ProvisionError Unit))
  | 0 => return .givenUp
  | lookups + 1 => do
      match ← PodDialogue.get wait.pod with
      | .ok found =>
          if wait.isOver found then return .settled (.ok ())
          else again lookups
      | .error _ => again lookups
where
  again (lookups : Nat) : PodDialogue (Settled (Except ProvisionError Unit)) := do
    let now ← PodDialogue.now
    if deadline ≤ now.millis then
      return .settled (.error (.timeout wait.what wait.timeout.seconds))
    else
      PodDialogue.sleep poll
      run wait poll deadline lookups

def forDeletion (settings : Settings) (name : String) : Wait :=
  { pod := name
    isOver := Option.isNone
    timeout := settings.deleteTimeout
    what := "deletion of pod " ++ name }

def forReady (settings : Settings) (name : String) : Wait :=
  { pod := name
    isOver := fun found => found.any Pod.isReady
    timeout := settings.readyTimeout
    what := "pod " ++ name }

/-- Wait from now on. A wait whose end cannot be told crashes before its first lookup. -/
def start (wait : Wait) (settings : Settings) (patience : Nat) :
    PodDialogue (Settled (Except ProvisionError Unit)) := do
  let begun ← PodDialogue.now
  if Workflow.Ticker.Reaches begun.millis wait.timeout then
    wait.run settings.pollInterval (begun.millis + wait.timeout.millis)
      (lookups wait.timeout settings.pollInterval patience)
  else
    return .crashed

end Wait

/-! ### Creating anew -/

/-- Create a pod and wait until it is ready. -/
def createAndWait (settings : Settings) (name : String) (pod : Pod) (patience : Nat) :
    PodDialogue (Settled (Except ProvisionError Unit)) := do
  match ← PodDialogue.create pod with
  | .error reason => return .settled (.error reason)
  | .ok () => (Wait.forReady settings name).start settings patience

/-- Give a slot's pod an assignment by creating it anew. The pod that is there is deleted first, and
what it held beside the assignment is kept. -/
def replacePod (settings : Settings) (slot : SlotId) (assignment : Assignment) (patience : Nat) :
    PodDialogue (Settled (Except ProvisionError Unit)) := do
  let name := podName settings slot
  match ← PodDialogue.get name with
  | .error reason => return .settled (.error reason)
  | .ok current =>
      let desired := ((current.getD (slotPod settings slot)).assign assignment).renew
      if current.isNone then createAndWait settings name desired patience
      else
        match ← PodDialogue.delete name with
        | .error reason => return .settled (.error reason)
        | .ok _ =>
            match ← (Wait.forDeletion settings name).start settings patience with
            | .settled (.ok ()) => createAndWait settings name desired patience
            | other => return other

/-- Create the pods of the slots with the given numbers that are not there yet, in their order. -/
def createMissing (settings : Settings) : List SlotId → PodDialogue (Except ProvisionError Unit)
  | [] => return .ok ()
  | slot :: rest => do
      match ← PodDialogue.get (podName settings slot) with
      | .error reason => return .error reason
      | .ok (some _) => createMissing settings rest
      | .ok none =>
          match ← PodDialogue.create (slotPod settings slot) with
          | .error reason => return .error reason
          | .ok () => createMissing settings rest

/-- The first slots of a pool, numbered from one. -/
def firstSlots (count : UInt32) : List SlotId :=
  (List.range count.toNat).map fun index => ⟨UInt32.ofNat (index + 1)⟩

/-- Make the pool complete. -/
def completePool (settings : Settings) (count : UInt32) :
    PodDialogue (Except ProvisionError Unit) :=
  createMissing settings (firstSlots count)

end WorkspacePool.Kubernetes
