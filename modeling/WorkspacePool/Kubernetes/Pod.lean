import WorkspacePool.Kubernetes.Schema

/-!
Pods, as far as the pool looks into them: names, the parts that the server fills in, containers with
their environment, and conditions. What else a pod holds is carried along as it is.
-/

namespace WorkspacePool.Kubernetes

open Json (Document Members)

/-- An environment variable of a container. Its value may come from elsewhere. -/
structure EnvVar where
  name : String
  value : Option String
  others : Members
deriving Repr, Inhabited

structure Container where
  name : String
  env : Option (List EnvVar)
  others : Members
deriving Repr, Inhabited

structure PodSpec where
  containers : List Container
  nodeName : Option String
  others : Members
deriving Repr, Inhabited

structure Metadata where
  name : Option String
  namespaceName : Option String
  labels : Option Document
  /-- What the server keeps there about the object's life. -/
  serverFields : Members
  others : Members
deriving Repr, Inhabited

structure Condition where
  kind : String
  status : String
  others : Members
deriving Repr, Inhabited

structure PodStatus where
  phase : Option String
  conditions : Option (List Condition)
  others : Members
deriving Repr, Inhabited

structure Pod where
  metadata : Metadata
  spec : Option PodSpec
  status : Option PodStatus
deriving Repr, Inhabited

/-! ### Reading -/

/-- Members whose names are not among the given ones. -/
def membersBut (names : List String) (document : Document) : Members :=
  match document with
  | .object members => members.filter fun member => !names.contains member.1
  | _ => []

/-- Members whose names are among the given ones. -/
def membersOf (names : List String) (document : Document) : Members :=
  match document with
  | .object members => members.filter fun member => names.contains member.1
  | _ => []

def textOf? (document : Document) (name : String) : Option String :=
  (document.member? name).bind Document.text?

def elements : Document → List Document
  | .array elements => elements
  | _ => []

def EnvVar.ofDocument (document : Document) : EnvVar :=
  { name := (textOf? document "name").getD ""
    value := textOf? document "value"
    others := membersBut ["name", "value"] document }

def Container.ofDocument (document : Document) : Container :=
  { name := (textOf? document "name").getD ""
    env := (document.member? "env").map fun env => (elements env).map EnvVar.ofDocument
    others := membersBut ["name", "env"] document }

def PodSpec.ofDocument (document : Document) : PodSpec :=
  { containers := ((document.member? "containers").map elements).getD [] |>.map Container.ofDocument
    nodeName := textOf? document "nodeName"
    others := membersBut ["containers", "nodeName"] document }

/-- The members of a pod's metadata that the server fills in. -/
def serverFieldNames : List String :=
  ["resourceVersion", "uid", "creationTimestamp", "deletionTimestamp", "deletionGracePeriodSeconds",
    "generation", "managedFields", "selfLink"]

def Metadata.ofDocument (document : Document) : Metadata :=
  { name := textOf? document "name"
    namespaceName := textOf? document "namespace"
    labels := document.member? "labels"
    serverFields := membersOf serverFieldNames document
    others := membersBut (["name", "namespace", "labels"] ++ serverFieldNames) document }

def Condition.ofDocument (document : Document) : Condition :=
  { kind := (textOf? document "type").getD ""
    status := (textOf? document "status").getD ""
    others := membersBut ["type", "status"] document }

def PodStatus.ofDocument (document : Document) : PodStatus :=
  { phase := textOf? document "phase"
    conditions := (document.member? "conditions").map fun conditions =>
      (elements conditions).map Condition.ofDocument
    others := membersBut ["phase", "conditions"] document }

namespace Pod

/-- Read a pod, unless one of its values has the wrong type. -/
def ofDocument? (document : Document) : Option Pod := do
  let pod ← Schema.pod document
  some
    { metadata := Metadata.ofDocument ((pod.member? "metadata").getD (.object []))
      spec := (pod.member? "spec").map PodSpec.ofDocument
      status := (pod.member? "status").map PodStatus.ofDocument }

def ofString? (text : String) : Option Pod :=
  (Document.ofString? text).bind ofDocument?

end Pod

/-! ### Writing -/

/-- A member that is left out when there is nothing in it. -/
def memberIf (name : String) (value : Option Document) : Members :=
  (value.map fun document => (name, document)).toList

def EnvVar.document (entry : EnvVar) : Document :=
  .object (("name", .string entry.name) :: memberIf "value" (entry.value.map .string) ++
    entry.others)

def Container.document (container : Container) : Document :=
  .object (("name", .string container.name) ::
    memberIf "env" (container.env.map fun env => .array (env.map EnvVar.document)) ++
    container.others)

def PodSpec.document (spec : PodSpec) : Document :=
  .object (("containers", .array (spec.containers.map Container.document)) ::
    memberIf "nodeName" (spec.nodeName.map .string) ++ spec.others)

def Metadata.document (metadata : Metadata) : Document :=
  .object (memberIf "name" (metadata.name.map .string) ++
    memberIf "namespace" (metadata.namespaceName.map .string) ++
    memberIf "labels" metadata.labels ++ metadata.serverFields ++ metadata.others)

def Condition.document (condition : Condition) : Document :=
  .object ([("type", .string condition.kind), ("status", .string condition.status)] ++
    condition.others)

def PodStatus.document (status : PodStatus) : Document :=
  .object (memberIf "phase" (status.phase.map .string) ++
    memberIf "conditions" (status.conditions.map fun conditions =>
      .array (conditions.map Condition.document)) ++ status.others)

namespace Pod

def document (pod : Pod) : Document :=
  .object ([("apiVersion", .string "v1"), ("kind", .string "Pod"),
    ("metadata", pod.metadata.document)] ++ memberIf "spec" (pod.spec.map PodSpec.document) ++
    memberIf "status" (pod.status.map PodStatus.document))

def text (pod : Pod) : String := pod.document.text

end Pod

end WorkspacePool.Kubernetes
