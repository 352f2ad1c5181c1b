import Gatehouse.Access.Bearer
import Gatehouse.Problem

/-!
How a rejection is answered. A client learns only that it is not authorized; the reason goes to the
log.
-/
namespace Gatehouse.Access.AccessError

def kind : AccessError → ProblemKind
  | token (.signing _) | internal _ => .internal
  | _ => .unauthorized

/-- The problem a client gets to see: one for all client errors, one for all others. -/
def problem (error : AccessError) : Problem :=
  match error.kind with
  | .unauthorized => .of .unauthorized "Unauthorized"
  | kind => .of kind "Internal server error"

/-- The log event of a rejection. -/
def event (error : AccessError) : Event :=
  match error with
  | token (.signing reason) => ⟨.error, "Token signing failed", [("error", reason)]⟩
  | internal detail => ⟨.error, "Auth internal error", [("message", detail)]⟩
  | _ =>
    ⟨.debug, "Authentication rejected",
      [("reason", error.reason.code), ("error", error.message)]⟩

/-- All that is logged when a rejection is answered. -/
def events (error : AccessError) : List Event :=
  error.event :: error.problem.events

def response (error : AccessError) : Response :=
  let response := error.problem.response
  if error.kind = .unauthorized then
    response.mapHeaders (·.set "www-authenticate" "Bearer")
  else response

end Gatehouse.Access.AccessError
