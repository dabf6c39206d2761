import WorkspacePool.Provision.Directive
import WorkspacePool.Simulation.Move
import WorkspacePool.Workflow.Steps

/-!
Collaborators that record what they are asked and fail when they are told to. While one of them is
busy, time may pass and other callers may act, as its hooks say.
-/

namespace WorkspacePool.Simulation

open Workflow (Call)

/-- Which calls a hook counts. -/
inductive CallKind where
  | assign
  | release
  | token
  | publish
deriving DecidableEq, Repr

def CallKind.of : Call → CallKind
  | .publish _ => .publish
  | .assign _ _ => .assign
  | .release _ _ => .release
  | .lookUpToken _ => .token

/-- What happens while a collaborator is busy: time passes, then other callers make moves. -/
structure Interlude where
  delay : Nat
  moves : List Move
deriving DecidableEq, Repr

/-- An interlude that waits for a call of its kind, so many calls from now. -/
structure Hook where
  kind : CallKind
  remaining : Nat
  interlude : Interlude
deriving DecidableEq, Repr

namespace Hook

/-- Count a call. A hook whose call has come is used up. -/
def count (hook : Hook) (kind : CallKind) : Interlude ⊕ Hook :=
  if hook.kind = kind then
    if hook.remaining ≤ 1 then .inl hook.interlude
    else .inr { hook with remaining := hook.remaining - 1 }
  else .inr hook

/-- Count a call on all hooks: the interludes that it sets off and the hooks that are left. -/
def countAll (hooks : List Hook) (kind : CallKind) : List Interlude × List Hook :=
  (hooks.map (·.count kind)).partitionMap id

end Hook

structure Collaborators where
  family : ProvisionFamily
  /-- Tokens by user, or none where no token provider is configured. -/
  tokens : Option (List (String × String))
  failAssigns : Bool := false
  failReleases : Bool := false
  failPublishes : Bool := false
  failProjects : List String := []
  directives : List Directive := []
  reports : List Report := []
  lookups : List String := []
  hooks : List Hook := []
deriving DecidableEq, Repr

namespace Collaborators

def failsFor (fakes : Collaborators) (projectId : String) : Bool :=
  fakes.failAssigns || fakes.failProjects.contains projectId

/-- Carry out a directive for a project. -/
def direct (fakes : Collaborators) (directive : Directive) (failure : Option ProvisionError) :
    Except ProvisionError Unit × Collaborators :=
  (failure.elim (.ok ()) .error, { fakes with directives := fakes.directives ++ [directive] })

def prepare (fakes : Collaborators) (count : UInt32) : Collaborators :=
  match fakes.family.prepare count with
  | some directive => (fakes.direct directive none).2
  | none => fakes

def assign (fakes : Collaborators) (slot : SlotId) (assignment : Assignment) :
    Except ProvisionError Unit × Collaborators :=
  fakes.direct (fakes.family.assign slot assignment)
    (if fakes.failsFor assignment.projectId then
      some (.timeout ("workspace " ++ assignment.projectId) 0) else none)

def release (fakes : Collaborators) (slot : SlotId) (projectId : String) :
    Except ProvisionError Unit × Collaborators :=
  fakes.direct (fakes.family.release slot projectId)
    (if fakes.failReleases then some (.api "injected release failure") else none)

def lookUp (fakes : Collaborators) (userId : String) :
    Except TokenError String × Collaborators :=
  match fakes.tokens with
  | none => (.error .notConfigured, fakes)
  | some tokens =>
      let recorded := { fakes with lookups := fakes.lookups ++ [userId] }
      match tokens.lookup userId with
      | some token => (.ok token, recorded)
      | none => (.error (.empty userId), recorded)

def publish (fakes : Collaborators) (report : Report) :
    Except PublishError Unit × Collaborators :=
  (if fakes.failPublishes then .error (.broker "injected publish failure") else .ok (),
    { fakes with reports := fakes.reports ++ [report] })

/-- Answer a call and record it. -/
def answer (fakes : Collaborators) : (call : Call) → call.Answer × Collaborators
  | .publish report => fakes.publish report
  | .assign slot assignment => fakes.assign slot assignment
  | .release slot projectId => fakes.release slot projectId
  | .lookUpToken userId => fakes.lookUp userId

/-- Answer a call, and tell what happens before the answer arrives. -/
def respond (fakes : Collaborators) (call : Call) : call.Answer × List Interlude × Collaborators :=
  let (answer, recorded) := fakes.answer call
  let (interludes, hooks) := Hook.countAll recorded.hooks (CallKind.of call)
  (answer, interludes, { recorded with hooks })

/-! ### What was recorded -/

/-- The projects that were assigned or provisioned. -/
def projectsSetUp (fakes : Collaborators) : List String :=
  fakes.directives.filterMap fun
    | .assign _ assignment => some assignment.projectId
    | .provision projectId _ => some projectId
    | _ => none

/-- The slots that were released. -/
def slotsReleased (fakes : Collaborators) : List SlotId :=
  fakes.directives.filterMap fun
    | .release slot => some slot
    | _ => none

def reportsOn (fakes : Collaborators) (projectId : String) : List Report :=
  fakes.reports.filter (·.projectId == projectId)

end Collaborators

end WorkspacePool.Simulation
