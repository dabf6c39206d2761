import WorkspacePool.Assignment
import WorkspacePool.Kubernetes.Pod
import WorkspacePool.Kubernetes.Settings

/-!
The pods of the pool: how a slot's pod is made, given an assignment, and made ready to be created
anew.
-/

namespace WorkspacePool.Kubernetes

open Json (Document)

/-- The name of a slot's pod. -/
def podName (settings : Settings) (slot : SlotId) : String :=
  settings.namePrefix ++ "-" ++ slot.text

/-- The label that tells a pod's slot. -/
def slotLabel : String := "berth.dev/slot-id"

/-- The name of the container that an assignment is given to. -/
def workspaceName : String := "workspace"

/-- The variables of an assignment, in the order in which they are set. -/
def assignmentVariables (assignment : Assignment) : List (String × String) :=
  [("PROJECT_ID", assignment.projectId), ("SESSION_ID", assignment.sessionId),
    ("GIT_REPO_URL", assignment.gitRepoUrl), ("GITHUB_TOKEN", assignment.githubToken),
    ("TARGET_BRANCH", assignment.targetBranch), ("BROKER_URL", assignment.brokerUrl)]

def assignmentVariableNames : List String :=
  (assignmentVariables Assignment.blank).map (·.1)

namespace EnvVar

/-- A variable with a plain value. -/
def plain (name value : String) : EnvVar := ⟨name, some value, []⟩

end EnvVar

/-! ### The template -/

/-- A probe that asks the terminal for its page. -/
def terminalProbe (settings : Settings) (period delay : Nat) : Document :=
  .object
    [("httpGet", .object [("path", .string "/"), ("port", Document.ofInt settings.terminalPort)]),
      ("initialDelaySeconds", Document.ofNat delay), ("periodSeconds", Document.ofNat period)]

def quantities (cpu memory : String) : Document :=
  .object [("cpu", .string cpu), ("memory", .string memory)]

def port (name : String) (number : Int) : Document :=
  .object [("name", .string name), ("containerPort", Document.ofInt number)]

def templateContainer (settings : Settings) (slot : SlotId) : Container :=
  { name := workspaceName
    env := some (EnvVar.plain "SLOT_ID" slot.text ::
      assignmentVariableNames.map fun name => EnvVar.plain name "")
    others :=
      [("image", .string settings.image),
        ("ports", .array
          [port "terminal" settings.terminalPort, port "preview" settings.previewPort]),
        ("resources", .object
          [("requests", quantities "100m" "128Mi"), ("limits", quantities "500m" "256Mi")]),
        ("readinessProbe", terminalProbe settings 5 2),
        ("livenessProbe", terminalProbe settings 30 15)] }

/-- The pod of a slot that nobody holds. -/
def slotPod (settings : Settings) (slot : SlotId) : Pod :=
  { metadata :=
      { name := some (podName settings slot)
        namespaceName := some settings.namespaceName
        labels := some (.object
          [("app", .string settings.appLabel), (slotLabel, .string slot.text)])
        serverFields := []
        others := [] }
    spec := some
      { containers := [templateContainer settings slot]
        nodeName := none
        others := [("restartPolicy", .string "Always")] }
    status := none }

/-! ### Assignments -/

/-- An environment without the variables of any assignment, and then with those of this one. -/
def assignEnv (assignment : Assignment) (env : List EnvVar) : List EnvVar :=
  env.filter (fun entry => !assignmentVariableNames.contains entry.name) ++
    (assignmentVariables assignment).map fun (name, value) => EnvVar.plain name value

namespace Container

def assign (assignment : Assignment) (container : Container) : Container :=
  { container with env := some (assignEnv assignment (container.env.getD [])) }

end Container

/-- Change the container called `workspace`, or the first one if none is called so. -/
def updateWorkspace (change : Container → Container) (containers : List Container) :
    List Container :=
  containers.modify ((containers.findIdx? (·.name == workspaceName)).getD 0) change

namespace Pod

/-- Give a pod an assignment. A pod without containers stays as it is. -/
def assign (pod : Pod) (assignment : Assignment) : Pod :=
  { pod with spec := pod.spec.map fun spec =>
      { spec with containers := updateWorkspace (·.assign assignment) spec.containers } }

/-- A pod without what the server filled in, so that it can be created anew. -/
def renew (pod : Pod) : Pod :=
  { pod with
    metadata := { pod.metadata with serverFields := [] }
    spec := pod.spec.map fun spec => { spec with nodeName := none }
    status := none }

/-! ### Looking at pods -/

def isReady (pod : Pod) : Bool :=
  ((pod.status.bind (·.conditions)).getD []).any fun condition =>
    condition.kind == "Ready" && condition.status == "True"

def phase (pod : Pod) : String :=
  (pod.status.bind (·.phase)).getD "Unknown"

/-- The container called `workspace`, or the first one. -/
def workspace? (pod : Pod) : Option Container := do
  let spec ← pod.spec
  (spec.containers.find? (·.name == workspaceName)).or spec.containers.head?

/-- The value of a variable in the workspace. A value that comes from elsewhere shows as empty. -/
def valueOf? (pod : Pod) (name : String) : Option String := do
  let container ← pod.workspace?
  let env ← container.env
  let entry ← env.find? (·.name == name)
  some (entry.value.getD "")

end Pod

end WorkspacePool.Kubernetes
