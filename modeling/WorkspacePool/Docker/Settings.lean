/-!
How a workspace is made in a container of its own.
-/

namespace WorkspacePool.Docker

structure Settings where
  image : String := "berth/workspace:latest"
  namePrefix : String := "berth-workspace"
  brokerUrl : String := ""
  workspaceDir : String := "/workspace"
deriving DecidableEq, Repr, Inhabited

end WorkspacePool.Docker
