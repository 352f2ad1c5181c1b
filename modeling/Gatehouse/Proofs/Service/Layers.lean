import Gatehouse.Proofs.Http.Fields
import Gatehouse.Proofs.Router.Handlers
import Gatehouse.Proofs.Service.Run
import Gatehouse.Service.Pipeline

/-! What the outer stages of the service do with an answer and with its status. Most of them only add
header fields. The time limit turns a request whose time is up into an answer, and nothing further out
waits or breaks down, so every request is answered. -/
namespace Gatehouse

variable {σ : Type}

@[simp] theorem Response.mapHeaders_status (change : Headers → Headers) (response : Response) :
    (response.mapHeaders change).status = response.status := rfl

namespace Run

/-- The status an activity answers with. -/
def status (activity : Run σ Response) (world : World σ) : Except Interrupt Nat :=
  (activity.perform world).1.map (·.status)

/-- A change to an answer leaves the world behind the activity. -/
theorem perform_then (activity : Run σ Response) (complete : Response → Response)
    (world : World σ) :
    (do return complete (← activity) : Run σ Response).perform world =
      ((activity.perform world).1.map complete, (activity.perform world).2) := by
  rw [perform_bind]
  rcases activity.perform world with ⟨outcome, after⟩
  cases outcome with
  | error interrupt => rfl
  | ok answer => rfl

/-- Changes to an answer that keep its status. -/
theorem status_of_map {activity whole : Run σ Response} {complete : Response → Response}
    {world : World σ}
    (performed : whole.perform world =
      ((activity.perform world).1.map complete, (activity.perform world).2))
    (kept : ∀ answer, (complete answer).status = answer.status) :
    whole.status world = activity.status world := by
  unfold status
  rw [performed]
  cases (activity.perform world).1 with
  | error interrupt => rfl
  | ok answer => exact congrArg Except.ok (kept answer)

/-- The status of an answer that takes a known time. -/
theorem Takes.status_eq {activity : Run σ Response} {world : World σ} {pause : Nanos}
    {status : Nat} (takes : Takes activity world pause (·.status = status)) :
    activity.status world = if world.HasTime pause then .ok status else .error .timeUp := by
  unfold Run.status
  by_cases timely : world.HasTime pause
  · obtain ⟨answer, final, performed, same, _⟩ := takes.gives world.deadline timely
    have performed : activity.perform world = (.ok answer, final) := performed
    rw [if_pos timely, performed, ← same]
    rfl
  · obtain ⟨final, performed⟩ := takes.cut_off world.deadline timely
    have performed : activity.perform world = (.error .timeUp, final) := performed
    rw [if_neg timely, performed]
    rfl

end Run

open Run

namespace Hardening

theorem layer_perform (next : Handler σ) (request : Request) (world : World σ) :
    (layer next request).perform world =
      (((next request).perform world).1.map (·.mapHeaders harden),
        ((next request).perform world).2) :=
  perform_then (next request) _ world

theorem layer_status (next : Handler σ) (request : Request) (world : World σ) :
    (layer next request).status world = (next request).status world :=
  status_of_map (layer_perform next request world) (Response.mapHeaders_status harden)

end Hardening

namespace Stages

/-- A request that carries an identifier. -/
def identified (fresh : Bytes) (request : Request) : Request :=
  { request with headers := request.headers.insertIfAbsent requestIdField fresh }

theorem request_id_perform (fresh : Bytes) (next : Handler σ) (request : Request)
    (world : World σ) :
    (requestId fresh next request).perform world =
      (((next (identified fresh request)).perform world).1.map (·.mapHeaders
          (·.insertIfAbsent requestIdField ((request.headers.get? requestIdField).getD fresh))),
        ((next (identified fresh request)).perform world).2) :=
  perform_then (next (identified fresh request)) _ world

theorem request_id_status (fresh : Bytes) (next : Handler σ) (request : Request)
    (world : World σ) :
    (requestId fresh next request).status world = (next (identified fresh request)).status world :=
  status_of_map (request_id_perform fresh next request world) fun _ => rfl

/-- An answer as the compression leaves it. -/
def compressed (enabled : Bool) (request : Headers) (response : Response) : Response :=
  if enabled && compressible response then
    let varied := response.mapHeaders (·.append "vary" (Utf8.encode "accept-encoding"))
    if Encoding.prefersGzip request then
      { varied with
        headers := ((varied.headers.erase "accept-ranges").erase "content-length").set
          "content-encoding" "gzip"
        sized := false }
    else varied
  else response

theorem compress_perform (enabled : Bool) (next : Handler σ) (request : Request)
    (world : World σ) :
    (compress enabled next request).perform world =
      (((next request).perform world).1.map (compressed enabled request.headers),
        ((next request).perform world).2) := by
  rw [← perform_then]
  unfold compress
  rw [perform_bind, perform_bind]
  rcases (next request).perform world with ⟨outcome, after⟩
  cases outcome with
  | error interrupt => rfl
  | ok answer =>
    simp only []
    unfold compressed
    cases enabled && compressible answer with
    | false => rfl
    | true =>
      cases Encoding.prefersGzip request.headers with
      | false => rfl
      | true => rfl

theorem compressed_status (enabled : Bool) (request : Headers) (response : Response) :
    (compressed enabled request response).status = response.status := by
  unfold compressed
  split
  · simp only []
    split
    · rfl
    · rfl
  · rfl

theorem compressed_body (enabled : Bool) (request : Headers) (response : Response) :
    (compressed enabled request response).body = response.body := by
  unfold compressed
  split
  · simp only []
    split
    · rfl
    · rfl
  · rfl

/-- The compression sets two fields only. -/
theorem compressed_named {kind : String → Prop} (enabled : Bool) (request : Headers)
    {response : Response} (named : response.headers.Named kind) (varies : kind "vary")
    (encodes : kind "content-encoding") :
    (compressed enabled request response).headers.Named kind := by
  have varied := named.append (Utf8.encode "accept-encoding") varies
  unfold compressed
  split
  · simp only []
    split
    · exact ((varied.erase _).erase _).insert _ encodes
    · exact varied
  · exact named

theorem compress_status (enabled : Bool) (next : Handler σ) (request : Request)
    (world : World σ) :
    (compress enabled next request).status world = (next request).status world :=
  status_of_map (compress_perform enabled next request world)
    (compressed_status enabled request.headers)

/-- A request whose time is up is answered in its handler's stead. -/
def lateAnswered : Except Interrupt Nat → Except Interrupt Nat
  | .error .timeUp => .ok 408
  | outcome => outcome

/-- So is one whose handler breaks down. -/
def breakdownAnswered : Except Interrupt Nat → Except Interrupt Nat
  | .error (.broken _) => .ok 500
  | outcome => outcome

/-- The status a client gets to see, whichever way its request ends. -/
def settled : Except Interrupt Nat → Nat
  | .ok status => status
  | .error .timeUp => 408
  | .error (.broken _) => 500

theorem answered_settled (outcome : Except Interrupt Nat) :
    breakdownAnswered (lateAnswered outcome) = .ok (settled outcome) := by
  cases outcome with
  | ok status => rfl
  | error interrupt =>
    cases interrupt with
    | timeUp => rfl
    | broken payload => rfl

/-- What the time limit makes of an outcome. -/
def timely : Except Interrupt Response → Except Interrupt Response
  | .error .timeUp => .ok (.ofStatus 408)
  | outcome => outcome

theorem time_limit_perform (limit : Nanos) (next : Handler σ) (request : Request)
    (world : World σ) :
    let inner := (next request).perform
      (world.withDeadline (some (world.clock.timer + limit)))
    (timeLimit limit next request).perform world = (timely inner.1, inner.2.withDeadline none) := by
  unfold timeLimit
  simp only [perform_bind, perform_get, perform_modify, perform_tryCatch, World.withDeadline]
  rcases (next request).perform _ with ⟨outcome, after⟩
  cases outcome with
  | ok answer => rfl
  | error interrupt =>
    cases interrupt with
    | timeUp => rfl
    | broken payload => rfl

theorem time_limit_status (limit : Nanos) (next : Handler σ) (request : Request)
    (world : World σ) :
    (timeLimit limit next request).status world =
      lateAnswered
        ((next request).status (world.withDeadline (some (world.clock.timer + limit)))) := by
  unfold status
  rw [time_limit_perform]
  cases ((next request).perform _).1 with
  | ok answer => rfl
  | error interrupt =>
    cases interrupt with
    | timeUp => rfl
    | broken payload => rfl

/-- The answer in a broken handler's stead. -/
def breakdownAnswer : Response := (Problem.of .internal "Internal server error").response

/-- What the log gets about a breakdown. -/
def breakdownEvents (payload : Option String) : List Event :=
  ⟨.error, "Handler panicked", [("panic", payload.getD unnamedBreakdown)]⟩ ::
    (Problem.of .internal "Internal server error").events

theorem catch_breakdown_perform (next : Handler σ) (request : Request) (world : World σ) :
    (catchBreakdown next request).perform world =
      match (next request).perform world with
      | (.error (.broken payload), after) =>
        (.ok breakdownAnswer, { after with journal := { after.journal with
          events := after.journal.events ++ breakdownEvents payload } })
      | settled => settled := by
  unfold catchBreakdown
  rw [perform_tryCatch]
  rcases (next request).perform world with ⟨outcome, after⟩
  cases outcome with
  | ok answer => rfl
  | error interrupt =>
    cases interrupt with
    | timeUp => rfl
    | broken payload =>
      unfold breakdownEvents
      simp only [perform_bind, perform_log]
      rw [List.append_cons]
      rfl

theorem catch_breakdown_status (next : Handler σ) (request : Request) (world : World σ) :
    (catchBreakdown next request).status world =
      breakdownAnswered ((next request).status world) := by
  unfold status
  rw [catch_breakdown_perform]
  rcases (next request).perform world with ⟨outcome, after⟩
  cases outcome with
  | ok answer => rfl
  | error interrupt =>
    cases interrupt with
    | timeUp => rfl
    | broken payload => rfl

end Stages

namespace Cors.Rules

variable (rules : Rules) (next : Handler σ) {request : Request} (world : World σ)

theorem layer_perform (other : request.method ≠ "OPTIONS") :
    (rules.layer next request).perform world =
      (((next request).perform world).1.map (·.mapHeaders (rules.decorate request.headers)),
        ((next request).perform world).2) := by
  unfold layer
  rw [if_neg other]
  exact perform_then (next request) _ world

theorem layer_preflight (asks : request.method = "OPTIONS") :
    (rules.layer next request).perform world = (.ok (rules.preflight request.headers), world) := by
  unfold layer
  rw [if_pos asks]
  rfl

end Cors.Rules

namespace Metrics

/-- The world once a request has been counted in, where its path is counted. -/
def Tracking.entered (tracking : Tracking) (path : String) (world : World σ) : World σ :=
  if tracking.counts path then { world with metrics := enter world.metrics } else world

/-- The world once a request has been answered, where its path is counted. -/
def Tracking.settled (tracking : Tracking) (request : Request) (answer : Response)
    (world : World σ) : World σ :=
  if tracking.counts request.path then
    { world with metrics := settle request answer world.metrics }
  else world

/-- Counting surrounds a handler, but a handler that breaks is not counted out. -/
theorem Tracking.layer_perform (tracking : Tracking) (next : Handler σ) (request : Request)
    (world : World σ) :
    (tracking.layer next request).perform world =
      match (next request).perform (tracking.entered request.path world) with
      | (.ok answer, after) => (.ok answer, tracking.settled request answer after)
      | (.error interrupt, after) => (.error interrupt, after) := by
  unfold layer entered settled
  cases tracking.counts request.path with
  | false =>
    simp only [Bool.false_eq_true, if_false]
    rcases (next request).perform world with ⟨outcome, after⟩
    cases outcome with
    | ok answer => rfl
    | error interrupt => rfl
  | true =>
    have counted_in (rest : Run σ Response) :
      (do changeMetrics enter; rest : Run σ Response).perform world =
        rest.perform { world with metrics := enter world.metrics } := rfl
    simp only [if_true]
    rw [counted_in, perform_bind]
    rcases (next request).perform _ with ⟨outcome, after⟩
    cases outcome with
    | ok answer => rfl
    | error interrupt => rfl

theorem Tracking.layer_status (tracking : Tracking) (next : Handler σ) (request : Request)
    (world : World σ) :
    (tracking.layer next request).status world =
      (next request).status (tracking.entered request.path world) := by
  unfold status
  rw [layer_perform]
  rcases (next request).perform _ with ⟨outcome, after⟩
  cases outcome with
  | ok answer => rfl
  | error interrupt => rfl

end Metrics

namespace Router.Table

theorem state_length_status (response : Response) :
    (stateLength response).status = response.status := by
  unfold stateLength
  split
  · rfl
  · rfl

theorem finish_status (method : String) (allow : Option String) (response : Response) :
    (finish method allow response).status = response.status := by
  have stated (answer : Response) (same : answer.status = response.status) :
      (if method = "HEAD" then { stateLength answer with body := [] }
        else stateLength answer).status = response.status := by
    split
    · exact (state_length_status answer).trans same
    · exact (state_length_status answer).trans same
  unfold finish
  split
  · rfl
  · cases allow with
    | none => exact stated response rfl
    | some methods => exact stated (response.mapHeaders (·.default "allow" methods)) rfl

theorem state_length_body (response : Response) :
    (stateLength response).body = response.body := by
  unfold stateLength
  split
  · rfl
  · rfl

/-- A body is completed as it is or not at all. -/
theorem finish_body (method : String) (allow : Option String) (response : Response) :
    (finish method allow response).body =
      if method = "HEAD" ∨ (method = "CONNECT" ∧ 200 ≤ response.status ∧ response.status < 300) then []
      else response.body := by
  have stated (answer : Response) (same : answer.body = response.body) :
      (if method = "HEAD" then { stateLength answer with body := [] }
        else stateLength answer).body = if method = "HEAD" then [] else response.body := by
    split
    · rfl
    · exact (state_length_body answer).trans same
  unfold finish
  by_cases connected : method = "CONNECT" ∧ 200 ≤ response.status ∧ response.status < 300
  · simp [connected]
  · simp only [connected, or_false, if_false]
    cases allow with
    | none => exact stated response rfl
    | some methods => exact stated (response.mapHeaders (·.default "allow" methods)) rfl

/-- How the table completes an answer. Only where nothing answers other paths is it left as it is. -/
def completion (table : Table σ) (request : Request) (response : Response) : Response :=
  match table.find? request.path, table.fallback with
  | some route, _ =>
    finish request.method (if (route.methods.handler? request.method).isSome then none
      else route.methods.allow) response
  | none, some _ => finish request.method none response
  | none, none => response

theorem serve_perform (table : Table σ) (layer : Layer σ) (request : Request) (world : World σ) :
    let inner := (layer (table.target request) (table.routed request)).perform world
    (table.serve layer request).perform world =
      (inner.1.map (table.completion request), inner.2) := by
  have unchanged (activity : Run σ Response) : activity.perform world =
      ((activity.perform world).1.map id, (activity.perform world).2) := by
    rcases activity.perform world with ⟨outcome, after⟩
    cases outcome with
    | error interrupt => rfl
    | ok answer => rfl
  unfold serve target routed completion
  cases table.find? request.path with
  | some route =>
    simp only [Option.map_some]
    cases route.methods.handler? request.method with
    | some handler => exact perform_then _ _ world
    | none => exact perform_then _ _ world
  | none =>
    simp only [Option.map_none]
    cases table.fallback with
    | some fallback => exact perform_then _ _ world
    | none => exact unchanged _

theorem completion_status (table : Table σ) (request : Request) (response : Response) :
    (table.completion request response).status = response.status := by
  unfold completion
  split
  · exact finish_status _ _ _
  · exact finish_status _ _ _
  · rfl

section Fields

variable {name : String} (notLength : "content-length" ≠ name) (notAllow : "allow" ≠ name)
include notLength

theorem state_length_getAll (response : Response) :
    (stateLength response).headers.getAll name = response.headers.getAll name := by
  unfold stateLength
  split
  · exact Headers.getAll_set_other _ notLength
  · rfl

include notAllow

private theorem finish_getAll (method : String) (allow : Option String) (response : Response) :
    (finish method allow response).headers.getAll name = response.headers.getAll name := by
  have stated (answer : Response) :
      (if method = "HEAD" then { stateLength answer with body := [] }
        else stateLength answer).headers.getAll name = answer.headers.getAll name := by
    split
    · exact state_length_getAll notLength answer
    · exact state_length_getAll notLength answer
  unfold finish
  split
  · rfl
  · cases allow with
    | none => exact stated response
    | some methods =>
      exact (stated (response.mapHeaders (·.default "allow" methods))).trans
        (Headers.getAll_insertIfAbsent_other _ notAllow)

/-- The completion touches two fields only. -/
theorem completion_getAll (table : Table σ) (request : Request) (response : Response) :
    (table.completion request response).headers.getAll name = response.headers.getAll name := by
  unfold completion
  split
  · exact finish_getAll notLength notAllow _ _ _
  · exact finish_getAll notLength notAllow _ _ _
  · rfl

end Fields

theorem serve_status (table : Table σ) (layer : Layer σ) (request : Request) (world : World σ) :
    (table.serve layer request).status world =
      (layer (table.target request) (table.routed request)).status world :=
  status_of_map (table.serve_perform layer request world) (table.completion_status request)

end Router.Table
end Gatehouse
