/-!
Why a user's token is not to be had.
-/

namespace WorkspacePool

inductive TokenError where
  | notConfigured
  | http (text : String)
  | status (userId : String) (code : Nat)
  | empty (userId : String)
deriving DecidableEq, Repr

namespace TokenError

def message : TokenError → String
  | .notConfigured => "no token provider configured"
  | .http text => "http error: " ++ text
  | .status userId code =>
      "token service returned " ++ toString code ++ " for user " ++ userId
  | .empty userId => "no token stored for user " ++ userId

end TokenError

end WorkspacePool
