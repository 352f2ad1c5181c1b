import Gatehouse.Access.Rejection
import Gatehouse.Access.Security
import Gatehouse.RateLimit.Limiter
import Gatehouse.Token.Service

/-!
The gate: requests to routes that need a credential are let through with the identity their token
names, or answered with a rejection.
-/
namespace Gatehouse.Access

variable {σ : Type}

/-- The claims of a request's credential. -/
def authenticate (config : TokenConfig) (now : Int) (headers : Headers) :
    Except AccessError Claims :=
  match bearerToken headers with
  | .error error => .error (.credential error)
  | .ok token => (Token.validate config now token).mapError .token

/-- Answers with a rejection, which goes to the log. -/
def reject (error : AccessError) : Run σ Response := do
  Run.logAll error.events
  return error.response

/-- Whether a request goes to a route that needs a credential. -/
def needsCredential (table : SecurityTable) (request : Request) : Bool :=
  request.route.any fun route => table.requirement request.method route == .bearer

/-- The gate in front of a handler; `observed` gates report why they reject. -/
def gate (config : TokenConfig) (table : SecurityTable) (observed : Bool) : Layer σ :=
  fun next request => do
    if needsCredential table request then
      match authenticate config (← get).clock.seconds request.headers with
      | .ok claims =>
        Run.log ⟨.debug, "Request authenticated", [("user_id", claims.userId)]⟩
        next { request with identity := some (Identity.ofClaims claims) }
      | .error error =>
        if observed then Run.reportRejection error.reason
        reject error
    else next request

end Gatehouse.Access
