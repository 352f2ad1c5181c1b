import Gatehouse.Http.Encoding
import Gatehouse.Problem
import Gatehouse.Service.World

/-!
The outer stages of the service: request identifiers, breakdowns, compression and the time limit.
-/
namespace Gatehouse.Stages

variable {σ : Type}

/-- The field that carries the identifier of a request. -/
def requestIdField : String := "x-request-id"

/-- Answers carry the identifier of their request: the first one it came with, or else a fresh
one. -/
def requestId (fresh : Bytes) : Layer σ := fun next request => do
  let id := (request.headers.get? requestIdField).getD fresh
  let request :=
    { request with headers := request.headers.insertIfAbsent requestIdField fresh }
  let response ← next request
  return response.mapHeaders (·.insertIfAbsent requestIdField id)

/-- What the log says about a breakdown without a text. -/
def unnamedBreakdown : String := "unknown panic"

/-- A breakdown becomes a server error, and its text goes to the log. -/
def catchBreakdown : Layer σ := fun next request =>
  tryCatch (next request) fun
    | .broken payload => do
      Run.log ⟨.error, "Handler panicked", [("panic", payload.getD unnamedBreakdown)]⟩
      let problem := Problem.of .internal "Internal server error"
      Run.logAll problem.events
      return problem.response
    | .timeUp => throw .timeUp

/-- A request that is not answered within its time is answered for its handler. -/
def timeLimit (limit : Nanos) : Layer σ := fun next request => do
  let setDeadline (deadline : Option Nanos) : Run σ Unit :=
    modify fun w => { w with deadline }
  setDeadline (some ((← get).clock.timer + limit))
  try
    let response ← next request
    setDeadline none
    return response
  catch
    | .timeUp =>
      setDeadline none
      return .ofStatus 408
    | .broken payload =>
      setDeadline none
      throw (.broken payload)

/-- The shortest body that is worth compressing. -/
def compressibleLength : Nat := 32

/-- Whether an answer may be compressed. -/
def compressible (response : Response) : Bool :=
  !response.headers.contains "content-encoding" && !response.headers.contains "content-range" &&
    (!response.sized || compressibleLength ≤ response.body.length)

/-- Answers that may be compressed say that they depend on what the client accepts. The body itself
is kept as it is before compression, but its length is no longer known. -/
def compress (enabled : Bool) : Layer σ := fun next request => do
  let response ← next request
  if enabled && compressible response then
    let response := response.mapHeaders (·.append "vary" (Utf8.encode "accept-encoding"))
    if Encoding.prefersGzip request.headers then
      let headers := ((response.headers.erase "accept-ranges").erase "content-length").set
        "content-encoding" "gzip"
      return { response with headers, sized := false }
    else return response
  else return response

end Gatehouse.Stages
