import Gatehouse.RateLimit.Evaluator
import Gatehouse.RateLimit.Policy

/-!
Limiter stages. A stage counts a request by its scope and either answers it itself, or passes it on
and adds its numbers to the answer. When it cannot decide, it passes the request on untouched.
-/
namespace Gatehouse.RateLimit

/-- A stage: what it counts by, its policy, and whether its decisions are reported. -/
structure Stage where
  scope : Scope
  policy : Policy
  observed : Bool
  deriving DecidableEq, Repr

namespace Stage

variable {σ : Type}

/-- Reports a decision, where the stage is observed. -/
def report (stage : Stage) (outcome : Outcome) : Run σ Unit :=
  if stage.observed then Run.reportDecision stage.scope outcome else pure ()

/-- The numbers of a decision, as fields of an answer. -/
def fields (limit : Nat) (decision : Decision) : List (String × String) := [
  ("x-ratelimit-limit", Numeral.decimal limit),
  ("x-ratelimit-remaining", Numeral.decimal decision.remaining),
  ("x-ratelimit-reset", Numeral.signed decision.resetSeconds)]

/-- Adds the numbers to an answer that does not have them. -/
def addFields (limit : Nat) (decision : Decision) (headers : Headers) : Headers :=
  (fields limit decision).foldl (fun hs (name, value) => hs.default name value) headers

/-- The answer to a request beyond the limit. -/
def denial (policy : Policy) (decision : Decision) : Response :=
  (Response.ofText 429 "text/plain; charset=utf-8" "Rate limit exceeded").mapHeaders fun headers =>
    ((fields policy.limit decision).foldl (fun hs (name, value) => hs.set name value) headers).set
      "retry-after" (Numeral.decimal policy.windowSeconds)

/-- The log event of a denial. -/
def denialEvent (stage : Stage) (key : Key) (decision : Decision) : Event :=
  ⟨.debug, "Rate limit exceeded",
    [("scope", stage.scope.code), ("key", key.text), ("count", Numeral.decimal decision.count),
      ("limit", Numeral.decimal stage.policy.limit)]⟩

variable [CounterStore σ]

/-- The stage in front of a handler. -/
def layer (timeout : Nanos) (stage : Stage) : Layer σ := fun next request => do
  match Key.derive stage.scope request with
  | .error error =>
    Run.log (error.event none)
    stage.report .bypassed
    next request
  | .ok key =>
    match ← checkLimit timeout key stage.policy.limit stage.policy.window with
    | .error error =>
      Run.log (error.event (some key.text))
      stage.report .bypassed
      next request
    | .ok decision =>
      if decision.allowed then
        stage.report .allowed
        let response ← next request
        return response.mapHeaders (addFields stage.policy.limit decision)
      else
        Run.log (stage.denialEvent key decision)
        stage.report .denied
        return denial stage.policy decision

end Stage

/-- Stages in front of a handler, the first of the list outermost. -/
def stack {σ : Type} [CounterStore σ] (timeout : Nanos) (stages : List Stage) : Layer σ :=
  fun handler => stages.foldr (fun stage next => stage.layer timeout next) handler

end Gatehouse.RateLimit
