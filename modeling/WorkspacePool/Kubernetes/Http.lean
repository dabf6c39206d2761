import WorkspacePool.Kubernetes.Replacement

/-!
The cluster's interface over HTTP: the request that each call becomes, and what a response means for
it.
-/

namespace WorkspacePool.Kubernetes

/-- What a response holds. -/
inductive Body where
  | pod (pod : Pod)
  /-- The server tells how a request went, and why it failed if it did. -/
  | status (reason : String)
  | unreadable
deriving Repr

structure Response where
  code : Nat
  body : Body
deriving Repr

structure HttpRequest where
  method : String
  path : String
  body : Option Pod
deriving Repr

namespace Response

def isFailure (response : Response) : Bool :=
  400 ≤ response.code && response.code < 600

/-- The pod of a response that succeeded. -/
def pod? (response : Response) : Option Pod :=
  match response.body with
  | .pod pod => if response.isFailure then none else some pod
  | _ => none

/-- The reason of a response that failed. -/
def reason? (response : Response) : Option String :=
  match response.body with
  | .status reason => if response.isFailure then some reason else none
  | _ => none

/-- The reason that tells a missing object. -/
def notFoundReason : String := "NotFound"

end Response

/-- The path of the pods of a namespace. -/
def podsPath (settings : Settings) : String :=
  "/api/v1/namespaces/" ++ settings.namespaceName ++ "/pods"

namespace PodCall

/-- The request that a call becomes. -/
def request (settings : Settings) : PodCall → HttpRequest
  | .get name => ⟨"GET", podsPath settings ++ "/" ++ name, none⟩
  | .create pod => ⟨"POST", podsPath settings, some pod⟩
  | .delete name => ⟨"DELETE", podsPath settings ++ "/" ++ name, none⟩

/-- What a response means as the answer to a call. -/
def interpret (call : PodCall) (response : Response) : call.Answer :=
  match call with
  | .get name =>
      match response.pod? with
      | some pod => .ok (some pod)
      | none =>
          if response.reason? = some Response.notFoundReason then .ok none
          else .error (.api ("get pod " ++ name))
  | .create pod =>
      if response.pod?.isSome then .ok ()
      else .error (.api ("create pod " ++ pod.metadata.name.getD ""))
  | .delete name =>
      if response.isFailure then
        if response.code = 404 then .ok false else .error (.api ("delete pod " ++ name))
      else
        match response.body with
        | .unreadable => .error (.api ("delete pod " ++ name))
        | _ => .ok true

end PodCall

/-- The error of a daemon that does not know any cluster. -/
def notConfigured : ProvisionError := .api "failed to create kube client"

end WorkspacePool.Kubernetes
