import Gatehouse.Metrics.Exposition
import Gatehouse.Service.Dependencies
import Gatehouse.Service.Refresh

/-!
What the routes of the service answer.
-/
namespace Gatehouse.Handlers

variable {σ : Type}

/-- The service is up. -/
def status : Handler σ := fun _ => return .json "\x7b\x7d"

/-- Whether the dependencies are well, and when they were asked. -/
def health [Dependencies σ] : Handler σ := fun _ => do
  let (database, redis) ← Health.check
  let flag (b : Bool) : String := if b then "true" else "false"
  return .json (Json.objectText [
    ("timestamp", Json.quote (timestamp (← get).clock.wall)),
    ("services", Json.objectText [("database", flag database), ("redis", flag redis)])])

/-- The metrics as text. -/
def metrics : Handler σ := fun _ => do
  return .ofText 200 "text/plain; version=0.0.4" (← get).metrics.text

/-- Who the caller is. The gate has let no one through without an identity. -/
def me : Handler σ := fun request => do
  match request.identity with
  | some who =>
    return .json (Json.objectText [("userId", Json.quote who.userId),
      ("email", Json.quote who.email), ("role", Json.quote who.role)])
  | none => Access.reject (.internal "no authenticated identity on request")

/-- There is no such route. -/
def notFound : Handler σ := fun _ =>
  Refresh.answerProblem (.of .notFound "Resource not found")

end Gatehouse.Handlers
