import WorkspacePool.Kubernetes.Http

/-!
Clusters that answer by a script, on a time of their own.
-/

namespace WorkspacePool.Simulation

open Kubernetes

/-- The n-th answer of a script, whose last answer repeats. -/
def scripted {α : Type} (script : List α) (turn : Nat) : Option α :=
  script[turn]?.or script.getLast?

/-! ### Pods by script -/

/-- What a lookup shows. -/
inductive Lookup where
  | nothing
  /-- The pod that the cluster knows, if it knows one. -/
  | known
  /-- The pod that the cluster knows, and it is ready. -/
  | ready
  | failure
  | pod (pod : Pod)
deriving Repr

inductive Deletion where
  | deleted
  | gone
  | failure
deriving DecidableEq, Repr

structure Script where
  lookups : List Lookup
  deletion : Deletion
  creationFails : Bool
deriving Repr

inductive PodEvent where
  | get (name : String) (time : Nat)
  | delete (name : String) (time : Nat)
  | create (time : Nat) (pod : Pod)
deriving Repr

structure Cluster where
  script : Script
  known : Option Pod
  turn : Nat := 0
  time : Nat := 0
  events : List PodEvent := []
deriving Repr

/-- A pod with no more to its status than that it is ready. -/
def readyPod (pod : Pod) : Pod :=
  { pod with
    status := some { phase := none, conditions := some [⟨"Ready", "True", []⟩], others := [] } }

namespace Cluster

def lookup (cluster : Cluster) : Except ProvisionError (Option Pod) :=
  match scripted cluster.script.lookups cluster.turn with
  | none | some .nothing => .ok none
  | some .known => .ok cluster.known
  | some .ready => .ok (cluster.known.map readyPod)
  | some .failure => .error (.api "injected get failure")
  | some (.pod pod) => .ok (some pod)

def note (cluster : Cluster) (event : PodEvent) : Cluster :=
  { cluster with events := cluster.events ++ [event] }

/-- Answer a call and record it. -/
def answer (cluster : Cluster) : (call : PodCall) → call.Answer × Cluster
  | .get name =>
      (cluster.lookup, { cluster.note (.get name cluster.time) with turn := cluster.turn + 1 })
  | .create pod =>
      let noted := cluster.note (.create cluster.time pod)
      if cluster.script.creationFails then (.error (.api "injected create failure"), noted)
      else (.ok (), { noted with known := some pod })
  | .delete name =>
      (match cluster.script.deletion with
        | .deleted => .ok true
        | .gone => .ok false
        | .failure => .error (.api "injected delete failure"),
        cluster.note (.delete name cluster.time))

/-- Run a dialogue on the cluster's own time, which passes with pauses only. -/
def run {α : Type} (cluster : Cluster) : PodDialogue α → α × Cluster
  | .done result => (result, cluster)
  | .ask (.call call) next =>
      let (answer, after) := cluster.answer call
      after.run (next answer)
  | .ask .readClock next => cluster.run (next ⟨cluster.time⟩)
  | .ask (.sleep span) next => { cluster with time := cluster.time + span.millis }.run (next ())

/-- After so many lookups without a pause the script has nothing new to say. -/
def patience (cluster : Cluster) : Nat := cluster.script.lookups.length + 1

end Cluster

/-! ### Responses by script -/

/-- Run a dialogue over HTTP from a moment on, time passing with pauses only. Gives the result and
the requests that were made. -/
def exchangeFrom {α : Type} (settings : Settings) (responses : List Response) (time turn : Nat) :
    PodDialogue α → α × List HttpRequest
  | .done result => (result, [])
  | .ask (.call call) next =>
      let response := (scripted responses turn).getD ⟨500, .unreadable⟩
      let (result, requests) :=
        exchangeFrom settings responses time (turn + 1) (next (call.interpret response))
      (result, call.request settings :: requests)
  | .ask .readClock next => exchangeFrom settings responses time turn (next ⟨time⟩)
  | .ask (.sleep span) next =>
      exchangeFrom settings responses (time + span.millis) turn (next ())

/-- Run a dialogue over HTTP. -/
def exchange {α : Type} (settings : Settings) (responses : List Response) (turn : Nat)
    (dialogue : PodDialogue α) : α × List HttpRequest :=
  exchangeFrom settings responses 0 turn dialogue

end WorkspacePool.Simulation
