import Gatehouse.Proofs.Service.FailOpen
import Gatehouse.Proofs.Service.Modest

/-! The way of a request through the service. What stands behind the counting gives an answer, which goes
out through counting, compression and hardening; or a limiter breaks down, and the request is answered
further out, past all three. Nothing but a limiter can break down. -/
namespace Gatehouse

open RateLimit Run

variable {σ : Type}

namespace Service

/-- The limiters end the handling of a request by breaking down. -/
def BreaksDown [CounterStore σ] (service : Service σ) (freshId : Bytes) (request : Request)
    (world : World σ) : Prop :=
  ∃ payload after, service.passage freshId request world = .ended (.broken payload) after

instance [CounterStore σ] (service : Service σ) (freshId : Bytes) (request : Request)
    (world : World σ) : Decidable (service.BreaksDown freshId request world) :=
  match passage : service.passage freshId request world with
  | .ended (.broken payload) after => .isTrue ⟨payload, after, passage⟩
  | .ended .timeUp _ | .denied _ _ | .passed _ _ => .isFalse (by
    rintro ⟨payload, after, broken⟩
    rw [passage] at broken
    cases broken)

/-- Which requests are counted. -/
def tracking (service : Service σ) : Metrics.Tracking :=
  .of service.server.metrics.enabled service.server.metrics.path service.server.metrics.excluded

/-- What stands behind the counting. -/
def counted [CounterStore σ] (service : Service σ) (freshId : Bytes) (request : Request) :
    Run σ Response :=
  Stages.timeLimit service.timeAllowed (service.limiting (service.behind request))
    (service.arriving freshId request)

/-- An answer that has gone through compression and hardening. -/
def hardened (service : Service σ) (request : Request) (answer : Response) : Response :=
  (Stages.compressed service.server.compression.enabled request.headers answer).mapHeaders
    Hardening.harden

/-- An answer as the client gets it: it carries an identifier and has been completed. -/
def sent (service : Service σ) (freshId : Bytes) (request : Request) (answer : Response) :
    Response :=
  service.table.completion request (answer.mapHeaders (·.insertIfAbsent Stages.requestIdField
    ((request.headers.get? Stages.requestIdField).getD freshId)))

theorem sent_status (service : Service σ) (freshId : Bytes) (request : Request)
    (answer : Response) : (service.sent freshId request answer).status = answer.status :=
  Router.Table.completion_status _ _ _

theorem hardened_status (service : Service σ) (request : Request) (answer : Response) :
    (service.hardened request answer).status = answer.status := by
  simp only [hardened, Response.mapHeaders_status, Stages.compressed_status]

/-- The answer that a client gets, told by what comes of the limiters with what stands behind them. -/
def delivered (service : Service σ) (freshId : Bytes) (request : Request) :
    Except Interrupt Response → Response
  | .ok answer =>
    service.sent freshId request (service.hardened (service.arriving freshId request) answer)
  | .error .timeUp => service.sent freshId request
      (service.hardened (service.arriving freshId request) (.ofStatus 408))
  | .error (.broken _) => service.sent freshId request Stages.breakdownAnswer

theorem delivered_status (service : Service σ) (freshId : Bytes) (request : Request)
    (outcome : Except Interrupt Response) :
    (service.delivered freshId request outcome).status =
      Stages.settled (outcome.map (·.status)) := by
  rcases outcome with (_ | _) | _
  · exact sent_status _ _ _ _
  · exact (sent_status _ _ _ _).trans (hardened_status _ _ _)
  · exact (sent_status _ _ _ _).trans (hardened_status _ _ _)

/-- An answer goes out through counting, compression and hardening; a breakdown is answered past them. -/
private theorem recovered_perform (tracking : Metrics.Tracking) (enabled : Bool) (next : Handler σ)
    (request : Request) (world : World σ) :
    (Stages.catchBreakdown (Hardening.layer (Stages.compress enabled (tracking.layer next)))
        request).perform world =
      match (next request).perform (tracking.entered request.path world) with
      | (.ok answer, after) =>
        (.ok ((Stages.compressed enabled request.headers answer).mapHeaders Hardening.harden),
          tracking.settled request answer after)
      | (.error (.broken payload), after) =>
        (.ok Stages.breakdownAnswer, { after with journal := { after.journal with
          events := after.journal.events ++ Stages.breakdownEvents payload } })
      | (.error .timeUp, after) => (.error .timeUp, after) := by
  rw [Stages.catch_breakdown_perform, Hardening.layer_perform, Stages.compress_perform,
    Metrics.Tracking.layer_perform]
  rcases (next request).perform _ with ⟨outcome, after⟩
  cases outcome with
  | ok answer => rfl
  | error interrupt =>
    cases interrupt with
    | timeUp => rfl
    | broken payload => rfl

variable [CounterStore σ]

/-- The service, told by what stands behind the counting. -/
theorem handle_perform (service : Service σ) (freshId : Bytes) (request : Request)
    (world : World σ) :
    (service.handle freshId request).perform world =
      match (service.counted freshId request).perform
        (service.tracking.entered request.path world) with
      | (.ok answer, after) =>
        (.ok (service.sent freshId request
            (service.hardened (service.arriving freshId request) answer)),
          service.tracking.settled (service.arriving freshId request) answer after)
      | (.error (.broken payload), after) =>
        (.ok (service.sent freshId request Stages.breakdownAnswer), { after with
          journal := { after.journal with
            events := after.journal.events ++ Stages.breakdownEvents payload } })
      | (.error .timeUp, after) => (.error .timeUp, after) := by
  have layers : stages service.server service.tokens service.rules freshId
      (service.table.target request) = Stages.requestId freshId (Stages.catchBreakdown
        (Hardening.layer (Stages.compress service.server.compression.enabled
          (service.tracking.layer (Stages.timeLimit service.timeAllowed
            (service.limiting (service.behind request))))))) := rfl
  have arrives : Stages.identified freshId (service.table.routed request) =
      service.arriving freshId request := rfl
  have path : (service.arriving freshId request).path = request.path := rfl
  unfold handle counted
  rw [Router.Table.serve_perform, layers, Stages.request_id_perform, arrives, recovered_perform, path]
  generalize (Stages.timeLimit _ _ _).perform _ = performed
  obtain ⟨outcome, after⟩ := performed
  cases outcome with
  | ok answer => rfl
  | error interrupt =>
    cases interrupt with
    | timeUp => rfl
    | broken payload => rfl

/-- What stands behind the counting, told by how the limiters let a request pass. -/
theorem counted_passage (service : Service σ) (freshId : Bytes) (request : Request)
    (world : World σ) :
    (service.counted freshId request).perform (service.tracking.entered request.path world) =
      let inner := (service.passage freshId request world).resume
        (service.behind request (service.arriving freshId request)).perform
      (Stages.timely inner.1, inner.2.withDeadline none) := by
  unfold counted
  rw [Stages.time_limit_perform]
  unfold limiting passage
  rw [← stack_passage]
  rfl

/-- Every request is answered with what comes of the limiters and of what stands behind them. -/
theorem handle_delivers (service : Service σ) (freshId : Bytes) (request : Request)
    (world : World σ) :
    ∃ last, (service.handle freshId request).perform world =
      (.ok (service.delivered freshId request ((service.passage freshId request world).resume
        (service.behind request (service.arriving freshId request)).perform).1), last) := by
  rw [handle_perform, counted_passage]
  rcases (service.passage freshId request world).resume _ with ⟨(_ | _) | _, after⟩
  · exact ⟨_, rfl⟩
  · exact ⟨_, rfl⟩
  · exact ⟨_, rfl⟩

section Built

variable [Dependencies σ] {server : ServerConfig} {tokens : TokenConfig} {service : Service σ}

theorem counted_quiet (built : build server tokens = .ok service) (freshId : Bytes)
    (request : Request) : Quiet (service.counted freshId request) (·.headers.Inner) := by
  have behind := cors_modest service.rules (gate_modest service.tokens .service true
    (target_modest built request))
  exact time_limit_modest _ (stack_modest _ _ behind) _

/-- What stands behind the counting gives an answer, unless the limiters break down. -/
theorem counted_outcome (built : build server tokens = .ok service) (freshId : Bytes)
    (request : Request) (world : World σ) :
    let outcome := ((service.counted freshId request).perform
      (service.tracking.entered request.path world)).1
    (¬ service.BreaksDown freshId request world ∧ ∃ answer, outcome = .ok answer) ∨
      (service.BreaksDown freshId request world ∧
        ∃ payload, outcome = .error (.broken payload)) := by
  intro outcome
  have answering := behind_answering built request
  have settled : outcome = Stages.timely ((service.passage freshId request world).resume
      (service.behind request (service.arriving freshId request)).perform).1 :=
    congrArg Prod.fst (service.counted_passage freshId request world)
  rw [settled]
  unfold BreaksDown
  cases service.passage freshId request world with
  | passed mark after =>
    left
    have unbroken := answering.unbroken (service.arriving freshId request) after
    constructor
    · rintro ⟨payload, _, ended⟩
      cases ended
    · unfold Passage.resume
      simp only []
      generalize ((service.behind request _).perform after).1 = inner at unbroken ⊢
      cases inner with
      | ok answer => exact ⟨_, rfl⟩
      | error interrupt =>
        cases interrupt with
        | timeUp => exact ⟨_, rfl⟩
        | broken payload => exact absurd rfl (unbroken payload)
  | denied answer after =>
    left
    constructor
    · rintro ⟨payload, _, ended⟩
      cases ended
    · exact ⟨answer, rfl⟩
  | ended interrupt after =>
    cases interrupt with
    | timeUp =>
      left
      constructor
      · rintro ⟨payload, _, ended⟩
        cases ended
      · exact ⟨_, rfl⟩
    | broken payload =>
      right
      exact ⟨⟨payload, after, rfl⟩, payload, rfl⟩

/-- All that can come of a request. Either it is counted out with the answer of what stands behind the
counting, which then is hardened, or a breakdown of a limiter is answered instead. -/
theorem handle_outcomes (built : build server tokens = .ok service) (freshId : Bytes)
    (request : Request) (world : World σ) :
    let entered := service.tracking.entered request.path world
    (¬ service.BreaksDown freshId request world ∧ ∃ answer after, answer.headers.Inner ∧
      after.metrics.http = entered.metrics.http ∧
      (service.handle freshId request).perform world =
        (.ok (service.sent freshId request
            (service.hardened (service.arriving freshId request) answer)),
          service.tracking.settled (service.arriving freshId request) answer after)) ∨
    (service.BreaksDown freshId request world ∧ ∃ after, after.metrics.http = entered.metrics.http ∧
      (service.handle freshId request).perform world =
        (.ok (service.sent freshId request Stages.breakdownAnswer), after)) := by
  intro entered
  have quiet := counted_quiet built freshId request
  have kept := quiet.kept entered
  have inner := quiet.fits entered
  have performed := service.handle_perform freshId request world
  have outcome := counted_outcome built freshId request world
  generalize (service.counted freshId request).perform entered = run at kept inner performed outcome
  obtain ⟨given, after⟩ := run
  rcases outcome with ⟨sound, answer, answered⟩ | ⟨broken, payload, failed⟩
  · cases answered
    exact .inl ⟨sound, answer, after, inner answer rfl, kept, performed⟩
  · cases failed
    refine .inr ⟨broken, _, ?_, performed⟩
    exact kept

/-- The same in terms of what the hardening finds and of the counts by labels. -/
theorem handle_cases (built : build server tokens = .ok service) (freshId : Bytes)
    (request : Request) (world : World σ) :
    let entered := service.tracking.entered request.path world
    (¬ service.BreaksDown freshId request world ∧ ∃ answer after, answer.headers.Bare ∧
      after.traffic = entered.traffic ∧
      (service.handle freshId request).perform world =
        (.ok (service.sent freshId request
            (service.hardened (service.arriving freshId request) answer)),
          service.tracking.settled (service.arriving freshId request) answer after)) ∨
    (service.BreaksDown freshId request world ∧ ∃ after, after.traffic = entered.traffic ∧
      (service.handle freshId request).perform world =
        (.ok (service.sent freshId request Stages.breakdownAnswer), after)) := by
  intro entered
  rcases handle_outcomes built freshId request world with
    ⟨sound, answer, after, inner, kept, performed⟩ | ⟨broken, after, kept, performed⟩
  · exact .inl ⟨sound, answer, after, inner.bare, World.traffic_of_http kept, performed⟩
  · exact .inr ⟨broken, after, World.traffic_of_http kept, performed⟩

end Built
end Service
end Gatehouse
