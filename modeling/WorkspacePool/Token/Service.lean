import WorkspacePool.Json.Fields
import WorkspacePool.Token.Error
import WorkspacePool.Url.Reading

/-!
The service that holds users' tokens: where a user's token is asked for, and what an answer means.
-/

namespace WorkspacePool

/-- A token service is known by a URL that its resources are found below. -/
structure TokenService where
  base : Url.Located
deriving DecidableEq, Repr

/-- What a server answers with. -/
structure TokenReply where
  code : Nat
  body : List UInt8
deriving DecidableEq, Repr

namespace TokenService

/-- The service at the URL that a text spells. -/
def ofText (text : String) : Except TokenError TokenService :=
  match Url.read text with
  | .ok (.located base) => .ok ⟨base⟩
  | .ok (.rootless url) => .error (.http ("token service url " ++ url.text ++ " is not a base"))
  | .error fault =>
      .error (.http ("invalid token service url " ++ text ++ ": " ++ fault.message))

/-- Where a user's token is found. -/
def resource (service : TokenService) (userId : String) : Url.Located :=
  service.base.extend ["users", userId, "github-token"]

/-- The token in a body, empty if there is none. -/
def readBody (body : List UInt8) : Option String := do
  match ← Json.Fields.collect ["token"] (← Json.Value.ofBytes body) with
  | [token] => Json.Fields.optional "" Json.Decoder.string token
  | _ => none

end TokenService

namespace TokenReply

/-- Codes that a response can end an exchange with. Those from 100 on announce another response,
except 101. -/
def isFinal (response : TokenReply) : Bool :=
  response.code == 101 || (200 ≤ response.code && response.code ≤ 999)

def isSuccess (response : TokenReply) : Bool :=
  200 ≤ response.code && response.code ≤ 299

/-- The bytes that come with a response; 204 tells that there are none. -/
def content (response : TokenReply) : List UInt8 :=
  if response.code == 204 then [] else response.body

end TokenReply

namespace TokenService

/-- What the answer to a lookup means. There is none when the connection is closed too early. -/
def interpret (userId : String) (answer : Option TokenReply) : Except TokenError String :=
  match answer.filter (·.isFinal) with
  | none => .error (.http "connection closed before the response was complete")
  | some response =>
      if response.isSuccess then
        match readBody response.content with
        | none => .error (.http "response body could not be read")
        | some token => if token = "" then .error (.empty userId) else .ok token
      else .error (.status userId response.code)

end TokenService

end WorkspacePool
