import Gatehouse.Service.World

/-!
Counting requests as they pass. A request is counted under its method, the template of its route and
the status it is answered with; paths of a given set are not counted at all.
-/
namespace Gatehouse.Metrics

/-- Whether requests are counted, and which paths are left out. -/
structure Tracking where
  enabled : Bool
  skipped : List String
  deriving DecidableEq, Repr

/-- Requests for the metrics themselves are never counted. -/
def Tracking.of (enabled : Bool) (metricsPath : String) (excluded : List String) : Tracking :=
  ⟨enabled, metricsPath :: excluded⟩

/-- Whether a path is counted. -/
def Tracking.counts (tracking : Tracking) (path : String) : Bool :=
  tracking.enabled && !tracking.skipped.contains path

/-- The label of requests that no route answers. -/
def unmatched : String := "unmatched"

/-- The size of an answer: the length it states, else the length it is known to have. -/
def responseSize (response : Response) : Nat :=
  (response.headers.contentLength?.or
    (if response.sized then some response.body.length else none)).getD 0

/-- The counts after one more answered request. -/
def settle (request : Request) (response : Response) (m : Metrics) : Metrics :=
  m.leave.record request.method (request.route.getD unmatched) response.status
    (request.headers.contentLength?.getD 0) (responseSize response)

/-- Counting in front of a handler. A handler that breaks is not counted as answered. -/
def Tracking.layer {σ : Type} (tracking : Tracking) : Layer σ := fun next request => do
  if tracking.counts request.path then
    Run.changeMetrics enter
    let response ← next request
    Run.changeMetrics (settle request response)
    return response
  else next request

end Gatehouse.Metrics
