import WorkspacePool.Span

/-!
How a pool of slots is kept in a cluster.
-/

namespace WorkspacePool.Kubernetes

structure Settings where
  namespaceName : String := "workspaces"
  image : String := "berth/workspace:latest"
  namePrefix : String := "workspace-slot"
  appLabel : String := "berth-slot"
  terminalPort : Int := 7681
  previewPort : Int := 3000
  readyTimeout : Span := Span.ofSeconds 120
  deleteTimeout : Span := Span.ofSeconds 60
  pollInterval : Span := Span.ofSeconds 1
deriving DecidableEq, Repr, Inhabited

end WorkspacePool.Kubernetes
