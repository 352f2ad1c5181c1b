import Gatehouse.Proofs.Service.Layers

/-! The handlers of the service behind the limiters. Every request is answered there, unless its time is
up: no handler breaks down, and none gives the status of a late request of its own accord. Only the
health report waits, and a deadline cuts it off. Where no token is judged, the status of an answer
follows from the request alone, whatever the clocks show and the counters, the metrics and the log
hold. -/
namespace Gatehouse

variable {σ : Type}

open Run

/-- A handler that answers every request, unless the time of the request is up. -/
def Answering (handler : Handler σ) : Prop :=
  ∀ request (world : World σ), ∃ pause, Takes (handler request) world pause (·.status ≠ 408)

/-- All answers of an activity have the status that is told by the second at which it begins. -/
def StatusAt (activity : Run σ Response) (status : Int → Nat) : Prop :=
  ∀ world answer after, activity.perform world = (.ok answer, after) →
    answer.status = status world.clock.seconds

/-- A handler whose answers to a request all have one status. -/
def Steady (handler : Handler σ) : Prop :=
  ∀ request, ∃ status, StatusAt (handler request) fun _ => status

/-- An activity that answers without a wait. -/
def AnswersAtOnce (activity : Run σ Response) (world : World σ) (status : Nat) : Prop :=
  ∃ answer final, activity.perform world = (.ok answer, final) ∧ answer.status = status ∧
    final.clock = world.clock ∧ final.deadline = world.deadline

/-- A handler that always answers a request at once and with one status. -/
def Prompt (handler : Handler σ) : Prop :=
  ∀ request, ∃ status, status ≠ 408 ∧ ∀ world, AnswersAtOnce (handler request) world status

/-- Whoever answers in no time answers in time. -/
theorem AnswersAtOnce.takes {activity : Run σ Response} {world : World σ}
    (answers : ∀ deadline, ∃ status, status ≠ 408 ∧
      AnswersAtOnce activity (world.withDeadline deadline) status) :
    Takes activity world 0 (·.status ≠ 408) := by
  refine .instant fun deadline => ?_
  obtain ⟨status, timely, answer, final, performed, same, clock, kept⟩ := answers deadline
  exact ⟨answer, final, performed, same ▸ timely, clock, kept⟩

namespace Prompt

variable {handler : Handler σ}

theorem answering (prompt : Prompt handler) : Answering handler := by
  intro request world
  obtain ⟨status, timely, answers⟩ := prompt request
  exact ⟨0, AnswersAtOnce.takes fun deadline => ⟨status, timely, answers _⟩⟩

theorem steady (prompt : Prompt handler) : Steady handler := by
  intro request
  obtain ⟨status, _, answers⟩ := prompt request
  refine ⟨status, fun world answer after performed => ?_⟩
  obtain ⟨own, final, answered, same, _⟩ := answers world
  rw [performed] at answered
  cases answered
  exact same

end Prompt

/-- The status of an answer that is not late is the one that is told, and whether there is an answer is
a matter of time. -/
theorem Run.Takes.status_told {activity : Run σ Response} {world : World σ} {pause : Nanos}
    {status : Int → Nat} (takes : Takes activity world pause (·.status ≠ 408))
    (told : StatusAt activity status) :
    status world.clock.seconds ≠ 408 ∧ activity.status world =
      if world.HasTime pause then .ok (status world.clock.seconds) else .error .timeUp := by
  have own : Takes activity world pause (·.status = status world.clock.seconds) :=
    takes.narrow fun deadline answer final performed _ =>
      told (world.withDeadline deadline) answer final performed
  obtain ⟨answer, final, performed, timely, _⟩ :=
    takes.gives none (World.has_time_none _ pause rfl)
  have same : answer.status = status world.clock.seconds :=
    told (world.withDeadline none) answer final performed
  exact ⟨same ▸ timely, own.status_eq⟩

/-- A handler may be late, but it never breaks down. -/
theorem Answering.unbroken {handler : Handler σ} (answering : Answering handler)
    (request : Request) (world : World σ) (payload : Option String) :
    ((handler request).perform world).1 ≠ .error (.broken payload) := by
  obtain ⟨pause, takes⟩ := answering request world
  have same : world.withDeadline world.deadline = world := rfl
  intro broken
  by_cases timely : world.HasTime pause
  · obtain ⟨answer, final, performed, _⟩ := takes.gives world.deadline timely
    rw [same] at performed
    rw [performed] at broken
    cases broken
  · obtain ⟨final, performed⟩ := takes.cut_off world.deadline timely
    rw [same] at performed
    rw [performed] at broken
    cases broken

theorem problem_status (kind : ProblemKind) : kind.status ≠ 408 := by
  cases kind with
  | badRequest => decide
  | unauthorized => decide
  | notFound => decide
  | payloadTooLarge => decide
  | internal => decide

theorem answer_problem_at_once (problem : Problem) (world : World σ) :
    AnswersAtOnce (Refresh.answerProblem problem) world problem.kind.status :=
  ⟨_, _, rfl, rfl, rfl, rfl⟩

theorem reject_at_once (error : Access.AccessError) : ∃ kind : ProblemKind,
    ∀ world : World σ, AnswersAtOnce (Access.reject error) world kind.status := by
  refine ⟨error.problem.kind, fun world => ⟨_, _, rfl, ?_, rfl, rfl⟩⟩
  unfold Access.AccessError.response
  split
  · rfl
  · rfl

namespace Handlers

theorem status_prompt : Prompt (status : Handler σ) := fun _ =>
  ⟨200, by decide, fun _ => ⟨_, _, rfl, rfl, rfl, rfl⟩⟩

theorem metrics_prompt : Prompt (metrics : Handler σ) := fun _ =>
  ⟨200, by decide, fun _ => ⟨_, _, rfl, rfl, rfl, rfl⟩⟩

theorem not_found_prompt : Prompt (notFound : Handler σ) := fun _ =>
  ⟨_, problem_status .notFound, fun world => answer_problem_at_once _ world⟩

theorem me_prompt : Prompt (me : Handler σ) := by
  intro request
  unfold me
  cases request.identity with
  | some who => exact ⟨200, by decide, fun _ => ⟨_, _, rfl, rfl, rfl, rfl⟩⟩
  | none => exact ⟨_, problem_status .internal, fun _ => ⟨_, _, rfl, rfl, rfl, rfl⟩⟩

end Handlers

theorem refresh_answering (config : TokenConfig) (bodyLimit : Nat) :
    Answering (Refresh.handler config bodyLimit : Handler σ) := by
  intro request world
  refine ⟨0, AnswersAtOnce.takes fun deadline => ?_⟩
  unfold Refresh.handler
  cases Refresh.readToken bodyLimit request with
  | error error => exact ⟨_, problem_status error.kind, answer_problem_at_once _ _⟩
  | ok token =>
    by_cases blank : (Blank.trim token).isEmpty = true
    · simp only [blank, if_true]
      exact ⟨_, problem_status .badRequest, answer_problem_at_once _ _⟩
    · simp only [blank, Bool.false_eq_true, if_false]
      unfold AnswersAtOnce
      rw [perform_bind, perform_get]
      simp only []
      cases Token.refreshAccess config (world.withDeadline deadline).clock.seconds token with
      | ok granted => exact ⟨200, by decide, _, _, rfl, rfl, rfl, rfl⟩
      | error error =>
        obtain ⟨kind, rejected⟩ := reject_at_once (σ := σ) (.token error)
        exact ⟨kind.status, problem_status kind, rejected _⟩

namespace Router.Table

theorem not_found_prompt : Prompt (notFound : Handler σ) := fun _ =>
  ⟨404, by decide, fun _ => ⟨_, _, rfl, rfl, rfl, rfl⟩⟩

theorem method_not_allowed_prompt : Prompt (methodNotAllowed : Handler σ) := fun _ =>
  ⟨405, by decide, fun _ => ⟨_, _, rfl, rfl, rfl, rfl⟩⟩

end Router.Table

namespace Health

/-- What the probes of both dependencies come to, the one of the database first. -/
def findings [Dependencies σ] (store : σ) : Finding × Finding :=
  let database := Dependencies.probeDatabase store
  (finding "Database" database.1, finding "Redis" (Dependencies.probeRedis database.2).1)

/-- One wait, and then what is left of another. -/
private theorem findings_take (first second : Finding) (flags : Bool × Bool) (world : World σ)
    {pause : Nanos} (whole : first.after + (second.after - first.after) = pause) :
    Takes (do
      Run.wait first.after
      Run.logAll first.events
      Run.wait (second.after - first.after)
      Run.logAll second.events
      return flags) world pause (· = flags) := by
  have last (moment : World σ) : Takes (do
      Run.wait (second.after - first.after)
      Run.logAll second.events
      return flags) moment (second.after - first.after) (· = flags) :=
    (Takes.of_wait moment _).then_instant fun _ _ _ _ => ⟨_, _, rfl, rfl, rfl, rfl⟩
  rw [← whole]
  refine (Takes.of_wait world _).bind ?_
  intro _ final _ _
  exact (last { final with journal := { final.journal with
    events := final.journal.events ++ first.events } }).of_perform rfl fun _ => rfl

/-- The check waits for the probe that takes longer, and says what both come to. -/
theorem check_takes [Dependencies σ] (world : World σ) :
    Takes check world
      (max (findings world.store).1.after (findings world.store).2.after)
      (· = ((findings world.store).1.healthy, (findings world.store).2.healthy)) := by
  let store := (Dependencies.probeRedis (Dependencies.probeDatabase world.store).2).2
  let both := findings world.store
  let order := if both.2.after < both.1.after then both.swap else both
  have whole : order.1.after + (order.2.after - order.1.after) =
      max both.1.after both.2.after := by
    by_cases sooner : both.2.after < both.1.after
    · simp only [order, if_pos sooner, Prod.fst_swap, Prod.snd_swap]
      exact (Nat.add_sub_cancel' (Nat.le_of_lt sooner)).trans
        (Nat.max_eq_left (Nat.le_of_lt sooner)).symm
    · have inOrder : both.1.after ≤ both.2.after := Nat.le_of_not_lt sooner
      simp only [order, if_neg sooner]
      exact (Nat.add_sub_cancel' inOrder).trans (Nat.max_eq_right inOrder).symm
  exact (findings_take order.1 order.2 (both.1.healthy, both.2.healthy)
    { world with store } whole).of_perform rfl fun _ => rfl

end Health

/-- The health report waits for both probes, which run side by side. -/
theorem health_answering [Dependencies σ] : Answering (Handlers.health : Handler σ) := by
  intro request world
  refine ⟨_, (Health.check_takes world).then_instant ?_⟩
  intro (database, redis) _ final _
  exact ⟨_, final, rfl, (by decide : (200 : Nat) ≠ 408), rfl, rfl⟩

/-- Whatever the probes come to, there is one status for it. -/
theorem health_steady [Dependencies σ] : Steady (Handlers.health : Handler σ) := by
  refine fun request => ⟨200, fun world answer after performed => ?_⟩
  unfold Handlers.health at performed
  rw [perform_bind] at performed
  rcases checked : Health.check.perform world with ⟨(_ | ⟨database, redis⟩), final⟩
  · rw [checked] at performed
    cases performed
  · rw [checked] at performed
    cases performed
    rfl

/-- The gate in front of a handler answers, where it does not let a request through. -/
theorem gate_answering (config : TokenConfig) (table : Access.SecurityTable) (observed : Bool)
    {next : Handler σ} (answering : Answering next) :
    Answering (Access.gate config table observed next) := by
  intro request world
  unfold Access.gate
  cases Access.needsCredential table request with
  | false =>
    simp only [Bool.false_eq_true, if_false]
    exact answering request world
  | true =>
    simp only [if_true]
    cases authentic : Access.authenticate config world.clock.seconds request.headers with
    | ok claims =>
      obtain ⟨pause, takes⟩ := answering
        { request with identity := some (Identity.ofClaims claims) }
        (world.logged ⟨.debug, "Request authenticated", [("user_id", claims.userId)]⟩)
      refine ⟨pause, takes.of_perform rfl fun deadline => ?_⟩
      rw [perform_bind, perform_get]
      simp only [World.withDeadline, authentic]
      rfl
    | error error =>
      obtain ⟨kind, rejected⟩ := reject_at_once (σ := σ) error
      refine ⟨0, AnswersAtOnce.takes fun deadline => ⟨kind.status, problem_status kind, ?_⟩⟩
      unfold AnswersAtOnce
      rw [perform_bind, perform_get]
      simp only [World.withDeadline, authentic]
      cases observed with
      | false => exact rejected _
      | true => exact rejected _

/-- So do the rules for foreign pages. -/
theorem cors_answering (rules : Cors.Rules) {next : Handler σ} (answering : Answering next) :
    Answering (rules.layer next) := by
  intro request world
  unfold Cors.Rules.layer
  by_cases asks : request.method = "OPTIONS"
  · simp only [asks, if_true]
    exact ⟨0, .instant fun _ => ⟨_, _, rfl, (by decide : (200 : Nat) ≠ 408), rfl, rfl⟩⟩
  · simp only [asks, if_false]
    obtain ⟨pause, takes⟩ := answering request world
    exact ⟨pause, takes.then_instant fun answer fit _ _ => ⟨_, _, rfl, fit, rfl, rfl⟩⟩

namespace Service

/-- A property that the handlers of the service have, and the answers for lack of a route or of a method
too. -/
structure EachHandler [Dependencies σ] (holds : Handler σ → Prop) (server : ServerConfig)
    (tokens : TokenConfig) : Prop where
  status : holds Handlers.status
  health : holds Handlers.health
  metrics : holds Handlers.metrics
  refresh : holds (Refresh.handler tokens server.maxRequestSize)
  me : holds Handlers.me
  notFound : holds Handlers.notFound
  missing : holds Router.Table.notFound
  refused : holds Router.Table.methodNotAllowed

variable [Dependencies σ] {holds : Handler σ → Prop} {server : ServerConfig} {tokens : TokenConfig}

theorem EachHandler.routes {table : Router.Table σ} (each : EachHandler holds server tokens)
    (built : routes server tokens = .ok table) : table.All holds := by
  have closed {before : Router.Table σ} (all : before.All holds)
      (rest : (do
        let table ← before.add "POST" "/auth/refresh"
          (Refresh.handler tokens server.maxRequestSize)
        let table ← table.add "GET" "/me" Handlers.me
        return { table with fallback := some Handlers.notFound }) = .ok table) :
      table.All holds := by
    obtain ⟨first, refresh, rest⟩ := bind_ok_iff.mp rest
    obtain ⟨second, me, same⟩ := bind_ok_iff.mp rest
    cases same
    have named := Router.Table.add_all me (Router.Table.add_all refresh all each.refresh) each.me
    refine ⟨named.routes, fun handler last => ?_⟩
    cases last
    exact each.notFound
  unfold Service.routes at built
  obtain ⟨first, status, built⟩ := bind_ok_iff.mp built
  obtain ⟨second, health, built⟩ := bind_ok_iff.mp built
  have first_all := Router.Table.add_all status Router.Table.empty_all each.status
  have second_all := Router.Table.add_all health first_all each.health
  split at built
  · obtain ⟨third, metrics, built⟩ := bind_ok_iff.mp built
    exact closed (Router.Table.add_all metrics second_all each.metrics) built
  · exact closed second_all built

/-- So has whatever answers a request in a service that has been built. -/
theorem EachHandler.target {service : Service σ} (each : EachHandler holds server tokens)
    (built : build server tokens = .ok service) (request : Request) :
    holds (service.table.target request) := by
  obtain ⟨table, routed, built⟩ := bind_ok_iff.mp built
  obtain ⟨rules, _, built⟩ := bind_ok_iff.mp built
  obtain ⟨_, _, same⟩ := bind_ok_iff.mp built
  cases same
  exact Router.Table.target_all (each.routes (map_error_ok_iff.mp routed)) each.missing each.refused
    request

theorem target_answering {service : Service σ} (built : build server tokens = .ok service)
    (request : Request) : Answering (service.table.target request) := by
  refine EachHandler.target ⟨?_, ?_, ?_, ?_, ?_, ?_, ?_, ?_⟩ built request
  · exact Handlers.status_prompt.answering
  · exact health_answering
  · exact Handlers.metrics_prompt.answering
  · exact refresh_answering tokens server.maxRequestSize
  · exact Handlers.me_prompt.answering
  · exact Handlers.not_found_prompt.answering
  · exact Router.Table.not_found_prompt.answering
  · exact Router.Table.method_not_allowed_prompt.answering

end Service
end Gatehouse
