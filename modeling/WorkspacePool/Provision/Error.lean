/-!
Why a provisioner fails.
-/

namespace WorkspacePool

inductive ProvisionError where
  | api (text : String)
  | docker (text : String)
  | timeout (what : String) (seconds : Nat)
  | notFound (text : String)
deriving DecidableEq, Repr

namespace ProvisionError

def message : ProvisionError → String
  | .api text => "orchestrator API error: " ++ text
  | .docker text => "docker error: " ++ text
  | .timeout what seconds => what ++ " not ready after " ++ toString seconds ++ "s"
  | .notFound text => "not found: " ++ text

end ProvisionError

end WorkspacePool
