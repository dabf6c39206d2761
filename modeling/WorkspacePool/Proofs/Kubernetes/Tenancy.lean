import Mathlib.Tactic
import WorkspacePool.Kubernetes.Template

/-!
What a slot's pod keeps of its tenants. Each tenant's pod is made from the one before: it is given
the tenant's assignment and cleared of what the server filled in. Whatever tenants came before, the
pod is the one that the last assignment alone makes of the first pod.
-/

namespace WorkspacePool.Kubernetes

open Json (Members)

/-! ### Environments -/

/-- A variable that no assignment sets. -/
def EnvVar.isOwn (entry : EnvVar) : Bool :=
  !assignmentVariableNames.contains entry.name

/-- The variables of an assignment as entries of an environment. -/
def assignmentEntries (assignment : Assignment) : List EnvVar :=
  (assignmentVariables assignment).map fun (name, value) => EnvVar.plain name value

variable {assignment first second : Assignment} {env : List EnvVar} {name value : String}

theorem assignEnv_eq (assignment : Assignment) (env : List EnvVar) :
    assignEnv assignment env = env.filter EnvVar.isOwn ++ assignmentEntries assignment := rfl

theorem filter_assignmentEntries (assignment : Assignment) :
    (assignmentEntries assignment).filter EnvVar.isOwn = [] := rfl

/-- An assignment leaves the other variables as they are, in their order. -/
theorem filter_assignEnv (assignment : Assignment) (env : List EnvVar) :
    (assignEnv assignment env).filter EnvVar.isOwn = env.filter EnvVar.isOwn := by
  rw [assignEnv_eq, List.filter_append, filter_assignmentEntries, List.filter_filter]
  simp

/-- A later assignment leaves nothing of an earlier one. -/
theorem assignEnv_assignEnv (first second : Assignment) (env : List EnvVar) :
    assignEnv second (assignEnv first env) = assignEnv second env := by
  rw [assignEnv_eq second, filter_assignEnv, ← assignEnv_eq]

theorem countP_own (member : name ∈ assignmentVariableNames) (env : List EnvVar) :
    (env.filter EnvVar.isOwn).countP (·.name == name) = 0 := by
  refine List.countP_eq_zero.mpr fun entry kept named => ?_
  have own := (List.mem_filter.mp kept).2
  rw [EnvVar.isOwn, eq_of_beq named] at own
  simp [member] at own

theorem countP_assignEnv (member : name ∈ assignmentVariableNames) (assignment : Assignment)
    (env : List EnvVar) : (assignEnv assignment env).countP (·.name == name) = 1 := by
  rw [assignEnv_eq, List.countP_append, countP_own member, Nat.zero_add]
  have once : ∀ name ∈ assignmentVariableNames,
      (assignmentVariableNames).countP (· == name) = 1 := by decide
  have names : (assignmentEntries assignment).map (·.name) = assignmentVariableNames := rfl
  rw [← once name member, ← names, List.countP_map]
  rfl

theorem find?_assignEnv (member : (name, value) ∈ assignmentVariables assignment)
    (env : List EnvVar) :
    (assignEnv assignment env).find? (·.name == name) = some (EnvVar.plain name value) := by
  have isName : name ∈ assignmentVariableNames :=
    show name ∈ (assignmentVariables assignment).map (·.1) from List.mem_map_of_mem member
  have absent : (env.filter EnvVar.isOwn).find? (·.name == name) = none := by
    rw [← Option.not_isSome_iff_eq_none, List.find?_isSome, ← List.countP_pos_iff,
      countP_own isName]
    exact lt_irrefl 0
  rw [assignEnv_eq, List.find?_append, absent, Option.none_or]
  simp only [assignmentVariables, List.mem_cons, Prod.mk.injEq, List.not_mem_nil, or_false]
    at member
  rcases member with ⟨rfl, rfl⟩ | ⟨rfl, rfl⟩ | ⟨rfl, rfl⟩ | ⟨rfl, rfl⟩ | ⟨rfl, rfl⟩ | ⟨rfl, rfl⟩ <;>
    rfl

/-! ### Containers -/

theorem Container.assign_assign (first second : Assignment) (container : Container) :
    (container.assign first).assign second = container.assign second := by
  simp only [Container.assign, Option.getD_some, assignEnv_assignEnv]

/-- The place of the container that an assignment is given to. -/
def workspaceIndex (containers : List Container) : Nat :=
  (containers.findIdx? (·.name == workspaceName)).getD 0

variable (change : Container → Container) {containers : List Container}

theorem updateWorkspace_eq (containers : List Container) :
    updateWorkspace change containers = containers.modify (workspaceIndex containers) change := rfl

/-- The workspace is looked for by names alone. -/
theorem workspaceIndex_updateWorkspace
    (named : ∀ container : Container, (change container).name = container.name) :
    workspaceIndex (updateWorkspace change containers) = workspaceIndex containers := by
  have byName (containers : List Container) :
      containers.findIdx? (·.name == workspaceName) =
        (containers.map (·.name)).findIdx? (· == workspaceName) := by
    rw [List.findIdx?_map]
    rfl
  have names : (updateWorkspace change containers).map (·.name) = containers.map (·.name) := by
    apply List.ext_getElem?
    intro index
    rw [updateWorkspace_eq, List.getElem?_map, List.getElem?_modify, List.getElem?_map]
    cases containers[index]? with
    | none => rfl
    | some container => by_cases same : workspaceIndex containers = index <;> simp [same, named]
  rw [workspaceIndex, workspaceIndex, byName, byName, names]

theorem updateWorkspace_updateWorkspace (later : Container → Container)
    (named : ∀ container : Container, (change container).name = container.name) :
    updateWorkspace later (updateWorkspace change containers) =
      updateWorkspace (later ∘ change) containers := by
  rw [updateWorkspace_eq later, workspaceIndex_updateWorkspace change named, updateWorkspace_eq,
    updateWorkspace_eq, List.modify_modify_eq]

theorem find?_workspace (containers : List Container) :
    (containers.find? (·.name == workspaceName)).or containers.head? =
      containers[workspaceIndex containers]? := by
  rw [workspaceIndex]
  cases found : containers.findIdx? (·.name == workspaceName) with
  | none =>
      have absent : containers.find? (·.name == workspaceName) = none :=
        List.find?_eq_none.mpr fun container member => by
          simpa using List.findIdx?_eq_none_iff.mp found container member
      rw [absent, Option.none_or, Option.getD_none, List.head?_eq_getElem?]
  | some index =>
      obtain ⟨inside, named, before⟩ := List.findIdx?_eq_some_iff_getElem.mp found
      have first : containers.find? (·.name == workspaceName) = some containers[index] :=
        List.find?_eq_some_iff_getElem.mpr ⟨named, index, inside, rfl, fun other earlier => by
          simpa using before other earlier⟩
      rw [first, Option.some_or, Option.getD_some, List.getElem?_eq_getElem inside]

/-! ### Pods -/

namespace Pod

variable {pod : Pod}

theorem workspace?_eq (pod : Pod) :
    pod.workspace? =
      pod.spec.bind fun spec => spec.containers[workspaceIndex spec.containers]? := by
  simp only [workspace?, find?_workspace]
  rfl

theorem assign_assign (first second : Assignment) (pod : Pod) :
    (pod.assign first).assign second = pod.assign second := by
  have twice (containers : List Container) :
      updateWorkspace (·.assign second) (updateWorkspace (·.assign first) containers) =
        updateWorkspace (·.assign second) containers := by
    rw [updateWorkspace_updateWorkspace (·.assign first) _ fun _ => rfl]
    exact congrArg (fun change => updateWorkspace change containers)
      (funext fun container => Container.assign_assign first second container)
  simp only [assign, Option.map_map, Function.comp_def, twice]

theorem workspace?_assign (assignment : Assignment) (pod : Pod) :
    (pod.assign assignment).workspace? = pod.workspace?.map (·.assign assignment) := by
  rw [workspace?_eq, workspace?_eq, assign]
  cases pod.spec with
  | none => rfl
  | some spec =>
      simp only [Option.map_some, Option.bind_some]
      rw [workspaceIndex_updateWorkspace (·.assign assignment) fun _ => rfl,
        updateWorkspace_eq, List.getElem?_modify_eq]
      rfl

theorem valueOf?_assign {container : Container} (present : pod.workspace? = some container)
    (member : (name, value) ∈ assignmentVariables assignment) :
    (pod.assign assignment).valueOf? name = some value := by
  rw [valueOf?, workspace?_assign, present]
  simp only [Option.map_some, Container.assign, Option.bind_eq_bind, Option.bind_some,
    find?_assignEnv member]
  rfl

end Pod

/-! ### Tenants one after the other -/

/-- The parts of a pod that the server fills in. -/
structure ServerPart where
  fields : Members
  nodeName : Option String
  status : Option PodStatus

/-- How a slot comes to its next tenant: what the server has made of its parts when the pod is
looked up, the tenant's assignment, and what the server makes of its parts until they are
cleared. -/
structure Tenancy where
  found : ServerPart
  assignment : Assignment
  meanwhile : ServerPart

namespace Pod

/-- A pod whose server parts are the given ones. -/
def served (pod : Pod) (part : ServerPart) : Pod :=
  { pod with
    metadata := { pod.metadata with serverFields := part.fields }
    spec := pod.spec.map fun spec => { spec with nodeName := part.nodeName }
    status := part.status }

/-- The pod that is created for the next tenant. -/
def handOver (pod : Pod) (tenancy : Tenancy) : Pod :=
  (((pod.served tenancy.found).assign tenancy.assignment).served tenancy.meanwhile).renew

theorem renew_served (pod : Pod) (part : ServerPart) : (pod.served part).renew = pod.renew := by
  simp only [renew, served, Option.map_map, Function.comp_def]

theorem assign_served (pod : Pod) (part : ServerPart) (assignment : Assignment) :
    (pod.served part).assign assignment = (pod.assign assignment).served part := by
  simp only [assign, served, Option.map_map, Function.comp_def]

theorem assign_renew (pod : Pod) (assignment : Assignment) :
    pod.renew.assign assignment = (pod.assign assignment).renew := by
  simp only [assign, renew, Option.map_map, Function.comp_def]

theorem renew_renew (pod : Pod) : pod.renew.renew = pod.renew := by
  simp only [renew, Option.map_map, Function.comp_def]

theorem handOver_eq (pod : Pod) (tenancy : Tenancy) :
    pod.handOver tenancy = (pod.assign tenancy.assignment).renew := by
  rw [handOver, renew_served, assign_served, renew_served]

/-- Of the tenancies before the last nothing is left. -/
theorem handOver_last (pod : Pod) (earlier : List Tenancy) (last : Tenancy) :
    (earlier ++ [last]).foldl handOver pod = (pod.assign last.assignment).renew := by
  rw [List.foldl_append, List.foldl_cons, List.foldl_nil, handOver_eq]
  induction earlier generalizing pod with
  | nil => rfl
  | cons next rest ih =>
      rw [List.foldl_cons, ih, handOver_eq, assign_renew, renew_renew, assign_assign]

/-- What a server fills in does not bear on the workspace. -/
theorem workspace?_renew (pod : Pod) : pod.renew.workspace? = pod.workspace? := by
  rw [workspace?_eq, workspace?_eq, renew]
  cases pod.spec <;> rfl

theorem valueOf?_renew (pod : Pod) (name : String) :
    pod.renew.valueOf? name = pod.valueOf? name := by
  rw [valueOf?, valueOf?, workspace?_renew]

/-- A pod that has containers has a workspace. -/
theorem workspace?_of_containers {pod : Pod} {spec : PodSpec} (specified : pod.spec = some spec)
    (filled : spec.containers ≠ []) : ∃ container, pod.workspace? = some container := by
  cases named : spec.containers.find? (·.name == workspaceName) with
  | some container => exact ⟨container, by simp [workspace?, specified, named]⟩
  | none => exact ⟨spec.containers.head filled, by
      simp [workspace?, specified, named, List.head?_eq_some_head filled]⟩

/-- The blank assignment leaves the pod of a slot that nobody holds as it is. -/
theorem slotPod_blank (settings : Settings) (slot : SlotId) :
    ((slotPod settings slot).assign .blank).renew = slotPod settings slot := rfl

/-- However many tenants a pod with containers has had, and whatever the server has made of its own
parts, the pod is the one that the last assignment alone makes of the first pod. In its workspace
the variables of the assignment have the values that the assignment gives, each is there once, and
the other variables are those of the first pod in their order. The other containers, the rest of
the workspace and all else but the server's parts are those of the first pod. A pod made from the
template is back at the template when the last assignment is the blank one. -/
theorem last_assignment_decides (pod : Pod) (spec : PodSpec) (earlier : List Tenancy)
    (last : Tenancy) (specified : pod.spec = some spec) (filled : spec.containers ≠ []) :
    let result := (earlier ++ [last]).foldl handOver pod
    let place := workspaceIndex spec.containers
    result = (pod.assign last.assignment).renew ∧
    (∀ name value, (name, value) ∈ assignmentVariables last.assignment →
      result.valueOf? name = some value) ∧
    (∃ before env, pod.workspace? = some before ∧
      result.workspace? = some { before with env := some env } ∧
      (∀ name ∈ assignmentVariableNames, env.countP (·.name == name) = 1) ∧
      env.filter EnvVar.isOwn = (before.env.getD []).filter EnvVar.isOwn) ∧
    (∃ containers, result.spec = some { spec with containers, nodeName := none } ∧
      containers.length = spec.containers.length ∧
      ∀ other, other ≠ place → containers[other]? = spec.containers[other]?) ∧
    result.metadata = { pod.metadata with serverFields := [] } ∧
    (∀ settings slot, pod = slotPod settings slot → last.assignment = .blank → result = pod) := by
  intro result place
  have decided : result = (pod.assign last.assignment).renew := handOver_last pod earlier last
  obtain ⟨workspace, present⟩ := workspace?_of_containers specified filled
  refine ⟨decided, ?_, ?_, ?_, ?_, ?_⟩
  · intro name value member
    rw [decided, valueOf?_renew]
    exact valueOf?_assign present member
  · refine ⟨workspace, assignEnv last.assignment (workspace.env.getD []), present, ?_, ?_, ?_⟩
    · rw [decided, workspace?_renew, workspace?_assign, present]
      rfl
    · intro name member
      exact countP_assignEnv member _ _
    · exact filter_assignEnv _ _
  · refine ⟨updateWorkspace (·.assign last.assignment) spec.containers, ?_, ?_, ?_⟩
    · rw [decided, renew, assign, specified]
      rfl
    · rw [updateWorkspace_eq, List.length_modify]
    · intro other elsewhere
      have apart : workspaceIndex spec.containers ≠ other := Ne.symm elsewhere
      simp only [updateWorkspace_eq, List.getElem?_modify, if_neg apart, id_map']
  · rw [decided]
    rfl
  · rintro settings slot rfl blank
    rw [decided, blank, slotPod_blank]

/-- Two tokens of an earlier tenant are in the pod, and the next tenant has none. -/
theorem earlier_token_is_gone :
    let workspace : Container := ⟨workspaceName, some [.plain "GITHUB_TOKEN" "first",
      .plain "SLOT_ID" "1", .plain "GITHUB_TOKEN" "second"], []⟩
    let spec : PodSpec := ⟨[⟨"sidecar", none, []⟩, workspace], some "node", []⟩
    let pod : Pod := ⟨⟨some "slot-1", none, none, [("uid", .string "1")], []⟩, some spec, none⟩
    let untouched : ServerPart := ⟨[], none, none⟩
    let tenancy (assignment : Assignment) : Tenancy := ⟨untouched, assignment, untouched⟩
    let earlier := [tenancy ⟨"project", "session", "repository", "token", "broker", "branch"⟩]
    let last := tenancy { Assignment.blank with projectId := "other" }
    pod.spec = some spec ∧ spec.containers ≠ [] ∧
      ((earlier ++ [last]).foldl handOver pod).valueOf? "GITHUB_TOKEN" = some "" := by
  intro workspace spec pod untouched tenancy earlier last
  have filled : spec.containers ≠ [] := by decide
  exact ⟨rfl, filled, (last_assignment_decides pod spec earlier last rfl filled).2.1
    "GITHUB_TOKEN" "" (by decide)⟩

end Pod

end WorkspacePool.Kubernetes
