import Gatehouse.Proofs.RateLimit.Passage
import Gatehouse.Proofs.Service.Pace

/-! What stands behind the counting of requests. All of it, from the time limit to the last handler,
leaves the counts of requests as they are, and the header fields of its answers have names from a short
list. None of these names is one that is set further out. Both follow operation by operation. -/
namespace Gatehouse

variable {σ α β : Type}

/-- The counts of requests: the answered ones by their labels, and how many are in flight. -/
def World.traffic (world : World σ) : Metrics.Table Nat × Int :=
  (world.metrics.requests, world.metrics.inFlight)

/-- All that is counted of requests, which leaves out decisions and rejections. -/
def Metrics.http (metrics : Metrics) : Metrics :=
  { metrics with decisions := .empty, rejections := .empty }

theorem World.traffic_of_http {world after : World σ}
    (same : after.metrics.http = world.metrics.http) : after.traffic = world.traffic := by
  have requests : after.metrics.http.requests = world.metrics.http.requests := by rw [same]
  have inFlight : after.metrics.http.inFlight = world.metrics.http.inFlight := by rw [same]
  exact Prod.ext requests inFlight

/-- The names of the fields that the hardening sets. -/
def Hardening.names : List String := fields.map Prod.fst

/-- The names of the fields that are set behind the counting. -/
def Service.innerNames : List String := [
  "content-type", "www-authenticate", "vary",
  "access-control-allow-credentials", "access-control-allow-methods", "access-control-allow-headers",
  "access-control-allow-origin", "access-control-max-age", "access-control-expose-headers",
  "x-ratelimit-limit", "x-ratelimit-remaining", "x-ratelimit-reset", "retry-after"]

/-! ## Header fields -/

namespace Headers

/-- No field has a name that the hardening sets. -/
def Bare (headers : Headers) : Prop :=
  ∀ entry ∈ headers.entries, entry.1 ∉ Hardening.names

/-- Every field has a name that is used behind the counting. -/
def Inner (headers : Headers) : Prop := headers.Named (· ∈ Service.innerNames)

variable {headers : Headers}

theorem Bare.named (bare : headers.Bare) : headers.Named (· ∉ Hardening.names) := bare

theorem Inner.bare (inner : headers.Inner) : headers.Bare := by
  have apart : ∀ name ∈ Service.innerNames, name ∉ Hardening.names := by decide
  intro entry member
  exact apart entry.1 (inner entry member)

end Headers

theorem Response.inner_of_text (status : Nat) (mediaType body : String) :
    (Response.ofText status mediaType body).headers.Inner :=
  Headers.Named.empty.insert _ (by decide)

theorem Problem.response_inner (problem : Problem) : problem.response.headers.Inner :=
  Response.inner_of_text _ _ _

/-! ## Activities -/

namespace Run

/-- An activity that leaves the counts of requests alone and has results of a kind. -/
structure Quiet (activity : Run σ α) (fits : α → Prop) : Prop where
  kept : ∀ world, (activity.perform world).2.metrics.http = world.metrics.http
  fits : ∀ world value, (activity.perform world).1 = .ok value → fits value

namespace Quiet

variable {activity : Run σ α} {fits : α → Prop} {suits : β → Prop}

theorem pure {value : α} (fit : fits value) : Quiet (Pure.pure value : Run σ α) fits := by
  constructor
  · intro world
    rfl
  · intro world result returned
    cases returned
    exact fit

theorem get : Quiet (MonadState.get : Run σ (World σ)) fun _ => True :=
  ⟨fun _ => rfl, fun _ _ _ => trivial⟩

theorem modified {change : World σ → World σ}
    (same : ∀ world, (change world).metrics.http = world.metrics.http) :
    Quiet (modify change : Run σ PUnit) fun _ => True :=
  ⟨same, fun _ _ _ => trivial⟩

theorem changeJournal (change : Journal → Journal) :
    Quiet (Run.changeJournal change : Run σ Unit) fun _ => True :=
  ⟨fun _ => rfl, fun _ _ _ => trivial⟩

theorem wait (pause : Nanos) : Quiet (Run.wait pause : Run σ Unit) fun _ => True := by
  constructor
  · intro world
    rw [perform_wait]
    split
    · rfl
    · rfl
  · intro _ _ _
    trivial

/-- One activity after another. -/
theorem bind {next : α → Run σ β} (first : Quiet activity fits)
    (second : ∀ value, fits value → Quiet (next value) suits) :
    Quiet (activity >>= next) suits := by
  constructor
  · intro world
    have kept := first.kept world
    have fit := first.fits world
    rw [perform_bind]
    generalize activity.perform world = performed at kept fit
    obtain ⟨outcome, after⟩ := performed
    cases outcome with
    | error interrupt => exact kept
    | ok value => exact ((second value (fit value rfl)).kept after).trans kept
  · intro world result
    have fit := first.fits world
    rw [perform_bind]
    generalize activity.perform world = performed at fit
    obtain ⟨outcome, after⟩ := performed
    cases outcome with
    | error interrupt =>
      intro failed
      cases failed
    | ok value => exact (second value (fit value rfl)).fits after result

/-- A change that leaves the counts alone may stand in front, also one that looks at the world. -/
theorem of_perform (rest : World σ → Run σ α) (after : World σ → World σ)
    (same : ∀ world, (after world).metrics.http = world.metrics.http)
    (performed : ∀ world, activity.perform world = (rest world).perform (after world))
    (quiet : ∀ world, Quiet (rest world) fits) : Quiet activity fits := by
  constructor
  · intro world
    rw [performed]
    exact ((quiet world).kept (after world)).trans (same world)
  · intro world value
    rw [performed]
    exact (quiet world).fits (after world) value

end Quiet
end Run

/-! ## Handlers -/

/-- A handler that leaves the counts of requests to others, and header fields too but for a few. -/
def Modest (handler : Handler σ) : Prop :=
  ∀ request, Run.Quiet (handler request) (·.headers.Inner)

open Run

theorem answer_problem_quiet (problem : Problem) :
    Quiet (Refresh.answerProblem problem : Run σ Response) (·.headers.Inner) :=
  (Quiet.changeJournal _).bind fun _ _ => .pure problem.response_inner

theorem reject_quiet (error : Access.AccessError) :
    Quiet (Access.reject error : Run σ Response) (·.headers.Inner) := by
  refine (Quiet.changeJournal _).bind fun _ _ => .pure ?_
  unfold Access.AccessError.response
  simp only []
  split
  · exact error.problem.response_inner.insert _ (by decide)
  · exact error.problem.response_inner

namespace Handlers

theorem status_modest : Modest (status : Handler σ) :=
  fun _ => .pure (Response.inner_of_text _ _ _)

theorem metrics_modest : Modest (metrics : Handler σ) :=
  fun _ => Quiet.get.bind fun _ _ => .pure (Response.inner_of_text _ _ _)

theorem not_found_modest : Modest (notFound : Handler σ) := fun _ => answer_problem_quiet _

theorem me_modest : Modest (me : Handler σ) := by
  intro request
  unfold me
  cases request.identity with
  | some who => exact .pure (Response.inner_of_text _ _ _)
  | none => exact reject_quiet _

theorem health_modest [Dependencies σ] : Modest (health : Handler σ) := by
  intro request
  have checked : Quiet (Health.check : Run σ (Bool × Bool)) fun _ => True := by
    let store (world : World σ) : σ :=
      (Dependencies.probeRedis (Dependencies.probeDatabase world.store).2).2
    let findings (world : World σ) : Health.Finding × Health.Finding :=
      (Health.finding "Database" (Dependencies.probeDatabase world.store).1,
        Health.finding "Redis"
          (Dependencies.probeRedis (Dependencies.probeDatabase world.store).2).1)
    let order (world : World σ) : Health.Finding × Health.Finding :=
      if (findings world).2.after < (findings world).1.after then (findings world).swap
      else findings world
    refine .of_perform (fun world => do
      Run.wait (order world).1.after
      Run.logAll (order world).1.events
      Run.wait ((order world).2.after - (order world).1.after)
      Run.logAll (order world).2.events
      return ((findings world).1.healthy, (findings world).2.healthy))
      (fun world => { world with store := store world }) (fun _ => rfl) (fun _ => rfl) fun world => ?_
    exact (Quiet.wait _).bind fun _ _ => (Quiet.changeJournal _).bind fun _ _ =>
      (Quiet.wait _).bind fun _ _ => (Quiet.changeJournal _).bind fun _ _ => .pure trivial
  exact checked.bind fun _ _ => Quiet.get.bind fun _ _ => .pure (Response.inner_of_text _ _ _)

end Handlers

theorem refresh_modest (config : TokenConfig) (bodyLimit : Nat) :
    Modest (Refresh.handler config bodyLimit : Handler σ) := by
  intro request
  unfold Refresh.handler
  cases Refresh.readToken bodyLimit request with
  | error error => exact answer_problem_quiet _
  | ok token =>
    simp only []
    split
    · exact answer_problem_quiet _
    · refine Quiet.get.bind fun world _ => ?_
      cases Token.refreshAccess config world.clock.seconds token with
      | ok granted => exact .pure (Response.inner_of_text _ _ _)
      | error error => exact reject_quiet _

namespace Router.Table

theorem not_found_modest : Modest (notFound : Handler σ) := fun _ => .pure Headers.Named.empty

theorem method_not_allowed_modest : Modest (methodNotAllowed : Handler σ) :=
  fun _ => .pure Headers.Named.empty

end Router.Table

theorem gate_modest (config : TokenConfig) (table : Access.SecurityTable) (observed : Bool)
    {next : Handler σ} (modest : Modest next) : Modest (Access.gate config table observed next) := by
  intro request
  unfold Access.gate
  cases Access.needsCredential table request with
  | false => exact modest request
  | true =>
    refine Quiet.get.bind fun world _ => ?_
    cases Access.authenticate config world.clock.seconds request.headers with
    | ok claims => exact (Quiet.changeJournal _).bind fun _ _ => modest _
    | error error =>
      cases observed with
      | false => exact reject_quiet error
      | true =>
        have reported : Quiet (reportRejection error.reason : Run σ Unit) fun _ => True :=
          .modified fun _ => rfl
        exact reported.bind fun _ _ => reject_quiet error

theorem cors_modest (rules : Cors.Rules) {next : Handler σ} (modest : Modest next) :
    Modest (rules.layer next) := by
  intro request
  unfold Cors.Rules.layer
  have field_named {name : String} (value : Option String) (own : name ∈ Service.innerNames) :
      ∀ entry ∈ Cors.field name value, entry.1 ∈ Service.innerNames := by
    intro entry member
    cases value with
    | none => cases member
    | some text =>
      rw [List.mem_singleton.mp member]
      exact own
  have origin_named : ∀ entry ∈ rules.originField request.headers,
      entry.1 ∈ Service.innerNames := by
    unfold Cors.Rules.originField
    intro entry member
    cases allowed : rules.allowedOrigin request.headers with
    | none =>
      rw [allowed] at member
      cases member
    | some origin =>
      have own : "access-control-allow-origin" ∈ Service.innerNames := by decide
      rw [allowed] at member
      rw [List.mem_singleton.mp member]
      exact own
  split
  · refine .pure fun entry member => ?_
    simp only [Cors.Rules.preflight, List.mem_append, List.mem_singleton] at member
    rcases member with ((((own | own) | own) | own) | own) | own
    · exact field_named _ (by decide) entry own
    · rw [own]
      decide
    · exact field_named _ (by decide) entry own
    · exact field_named _ (by decide) entry own
    · exact field_named _ (by decide) entry own
    · exact origin_named entry own
  · refine (modest request).bind fun answer inner => .pure ?_
    refine (inner.append _ (by decide)).foldl ?_ fun _ entry still own => still.insert entry.2 own
    intro entry member
    simp only [List.mem_append] at member
    rcases member with (own | own) | own
    · exact field_named _ (by decide) entry own
    · exact field_named _ (by decide) entry own
    · exact origin_named entry own

theorem time_limit_modest (limit : Nanos) {next : Handler σ} (modest : Modest next) :
    Modest (Stages.timeLimit limit next) := by
  intro request
  constructor
  · intro world
    rw [Stages.time_limit_perform]
    exact (modest request).kept _
  · intro world answer
    rw [Stages.time_limit_perform]
    have fits := (modest request).fits (world.withDeadline (some (world.clock.timer + limit)))
    generalize ((next request).perform _).1 = outcome at fits
    intro answered
    cases outcome with
    | ok inner => exact fits answer answered
    | error interrupt =>
      cases interrupt with
      | timeUp =>
        cases answered
        exact Headers.Named.empty
      | broken payload => cases answered

namespace RateLimit

/-- A passage that leaves the counts of requests alone and adds no field of another name than those. -/
def Passage.Modest (world : World σ) : Passage σ → Prop
  | .passed mark after =>
    after.metrics.http = world.metrics.http ∧ ∀ headers : Headers, headers.Inner → (mark headers).Inner
  | .denied answer after => after.metrics.http = world.metrics.http ∧ answer.headers.Inner
  | .ended _ after => after.metrics.http = world.metrics.http

theorem Passage.Modest.resume {passage : Passage σ} {world : World σ} {rest : Run σ Response}
    (modest : passage.Modest world) (quiet : Quiet rest (·.headers.Inner)) :
    (passage.resume rest.perform).2.metrics.http = world.metrics.http ∧
      ∀ answer, (passage.resume rest.perform).1 = .ok answer → answer.headers.Inner := by
  cases passage with
  | passed mark after =>
    refine ⟨(quiet.kept after).trans modest.1, fun answer marked => ?_⟩
    have fits := quiet.fits after
    simp only [Passage.resume] at marked
    generalize (rest.perform after).1 = outcome at fits marked
    cases outcome with
    | error interrupt => cases marked
    | ok inner =>
      cases marked
      exact modest.2 _ (fits inner rfl)
  | denied answer after =>
    refine ⟨modest.1, fun other given => ?_⟩
    cases given
    exact modest.2
  | ended interrupt after =>
    refine ⟨modest, fun answer given => ?_⟩
    cases given

namespace Stage

theorem noted_http (stage : Stage) (outcome : Outcome) (world : World σ) :
    (stage.noted outcome world).metrics.http = world.metrics.http := by
  unfold noted
  cases stage.observed with
  | false => rfl
  | true => rfl

private theorem fields_named (limit : Nat) (decision : Decision) :
    ∀ entry ∈ fields limit decision, entry.1 ∈ Service.innerNames := by
  have names : ∀ name ∈ (fields limit decision).map Prod.fst, name ∈ Service.innerNames := by
    have listed : (fields limit decision).map Prod.fst =
      ["x-ratelimit-limit", "x-ratelimit-remaining", "x-ratelimit-reset"] := rfl
    rw [listed]
    decide
  intro entry member
  exact names entry.1 (List.mem_map_of_mem member)

theorem conclude_modest (stage : Stage) (key : Key) (verdict : Verdict) (world : World σ) :
    (stage.conclude key verdict world).Modest world := by
  cases verdict with
  | undecided error => exact ⟨stage.noted_http _ _, fun _ inner => inner⟩
  | broken payload => rfl
  | decided decision =>
    unfold conclude
    simp only []
    split
    · refine ⟨stage.noted_http _ _, fun headers inner => ?_⟩
      exact inner.foldl (fields_named _ decision) fun _ entry still own => still.insertIfAbsent _ own
    · refine ⟨stage.noted_http _ _, Headers.Named.insert ?_ _ (by decide)⟩
      exact (Response.inner_of_text _ _ _).foldl (fields_named _ decision)
        fun _ entry still own => still.insert _ own

variable [CounterStore σ]

theorem passage_modest (timeout : Nanos) (stage : Stage) (request : Request) (world : World σ) :
    (stage.passage timeout request world).Modest world := by
  unfold passage
  cases Key.derive stage.scope request with
  | error error => exact ⟨stage.noted_http _ _, fun _ inner => inner⟩
  | ok key =>
    simp only []
    split
    · exact stage.conclude_modest key _ _
    · rfl

end Stage

theorem stack_modest [CounterStore σ] (timeout : Nanos) (stages : List Stage) {next : Handler σ}
    (modest : Modest next) : Modest (stack timeout stages next) := by
  induction stages with
  | nil => exact modest
  | cons stage rest ih =>
    intro request
    have outermost : stack timeout (stage :: rest) next =
      stage.layer timeout (stack timeout rest next) := rfl
    have resumed (world : World σ) :=
      (stage.passage_modest timeout request world).resume (ih request)
    constructor
    · intro world
      rw [outermost, Stage.layer_passage]
      exact (resumed world).1
    · intro world
      rw [outermost, Stage.layer_passage]
      exact (resumed world).2

end RateLimit

/-- Whatever answers a request in a service that has been built is modest. -/
theorem Service.target_modest [Dependencies σ] {server : ServerConfig} {tokens : TokenConfig}
    {service : Service σ} (built : build server tokens = .ok service) (request : Request) :
    Modest (service.table.target request) := by
  refine EachHandler.target ⟨?_, ?_, ?_, ?_, ?_, ?_, ?_, ?_⟩ built request
  · exact Handlers.status_modest
  · exact Handlers.health_modest
  · exact Handlers.metrics_modest
  · exact refresh_modest tokens server.maxRequestSize
  · exact Handlers.me_modest
  · exact Handlers.not_found_modest
  · exact Router.Table.not_found_modest
  · exact Router.Table.method_not_allowed_modest

end Gatehouse
