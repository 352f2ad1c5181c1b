import Gatehouse.Access.Gate
import Gatehouse.Http.MediaType

/-!
Exchanging a refresh token: reading the body of the request, and answering it.
-/
namespace Gatehouse.Refresh

/-- Why a body is refused before its token is looked at. -/
inductive BodyError where
  | mediaType
  | tooLong
  | json (fault : Json.Fault)

namespace BodyError

/-- Only a body that is too long has a status of its own. -/
def kind : BodyError → ProblemKind
  | tooLong => .payloadTooLarge
  | _ => .badRequest

def message : BodyError → String
  | mediaType => "Expected request with \x60Content-Type: application/json\x60"
  | tooLong => "Failed to buffer the request body: length limit exceeded"
  | json fault =>
    (match fault.cause.category with
      | .data => "Failed to deserialize the JSON body into the target type: "
      | _ => "Failed to parse the request body as JSON: ") ++ fault.messageWithPath

end BodyError

/-- The body: one member, and others that are passed over. -/
def shape : Json.Decoder.Shape String where
  name := "RefreshRequest"
  blank := ""
  shortLists := false
  fields := [.required "refreshToken" Json.Decoder.text fun v _ => v]

/-- Whether a request says that its body is JSON. -/
def saysJson (headers : Headers) : Bool :=
  ((headers.get? "content-type").bind headerText?).any MediaType.isJson

/-- The refresh token of a request. -/
def readToken (bodyLimit : Nat) (request : Request) : Except BodyError String :=
  if !saysJson request.headers then .error .mediaType
  else if bodyLimit < request.body.length then .error .tooLong
  else (Json.Decoder.run (Json.Decoder.record shape) request.body).mapError .json

/-- The answer with a new token. -/
def grant (token : String) : Response :=
  .json (Json.objectText [("accessToken", Json.quote token)])

variable {σ : Type}

/-- Answers with a problem, which goes to the log if it is the server's own. -/
def answerProblem (problem : Problem) : Run σ Response := do
  Run.logAll problem.events
  return problem.response

/-- Exchanges the refresh token of a request for an access token. -/
def handler (config : TokenConfig) (bodyLimit : Nat) : Handler σ := fun request => do
  match readToken bodyLimit request with
  | .error error => answerProblem (.of error.kind error.message)
  | .ok token =>
    if (Blank.trim token).isEmpty then
      answerProblem (.of .badRequest "refreshToken is required")
    else
      match Token.refreshAccess config (← get).clock.seconds token with
      | .ok token => return grant token
      | .error error => Access.reject (.token error)

end Gatehouse.Refresh
