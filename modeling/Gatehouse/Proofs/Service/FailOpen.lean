import Gatehouse.Proofs.RateLimit.Waits
import Gatehouse.Proofs.Service.Pace

/-! The limiters in their place between the time limit and the handlers. A store that turns nobody
away can still take its time, and every stage waits for it in turn, on the time of the request. A
request gets past them exactly where no inquiry breaks down and the waits of all stages together end
before its time does. -/
namespace Gatehouse

open RateLimit Run

variable {σ : Type}

/-- The same section with all three scopes disabled. -/
def LimitsConfig.withoutLimiters (config : LimitsConfig) : LimitsConfig :=
  { config with scopes := Scope.all.map fun scope =>
      (scope.code, { (config.scopes.lookup scope.code).getD .blank with enabled := some false }) }

/-- The same configuration with all three limiters disabled. -/
def ServerConfig.withoutLimiters (server : ServerConfig) : ServerConfig :=
  { server with limits := server.limits.withoutLimiters }

/-- A request is passed on by a layer as it is, and once: whatever stands behind the layer runs on it
in one world, and only the header fields of its answer may change. -/
def PassesOn (layer : Layer σ) (request : Request) (world : World σ) : Prop :=
  ∃ mark after, ∀ next : Handler σ,
    (layer next request).perform world =
      (((next request).perform after).1.map (·.mapHeaders mark), ((next request).perform after).2)

namespace Service

/-- The same service with all three limiters disabled. -/
def withoutLimiters (service : Service σ) : Service σ :=
  { service with server := service.server.withoutLimiters }

/-- How long a request may take. -/
def timeAllowed (service : Service σ) : Nanos := service.server.requestTimeout * 1_000_000_000

/-- A request as it comes to the limiters. -/
def arriving (service : Service σ) (freshId : Bytes) (request : Request) : Request :=
  { service.table.routed request with
    headers := request.headers.insertIfAbsent Stages.requestIdField freshId }

/-- The world that the request finds there. -/
def entered (service : Service σ) (request : Request) (world : World σ) : World σ :=
  let counted := (Metrics.Tracking.of service.server.metrics.enabled service.server.metrics.path
    service.server.metrics.excluded).entered request.path world
  counted.withDeadline (some (counted.clock.timer + service.timeAllowed))

/-- What stands behind the limiters for a request. -/
def behind (service : Service σ) (request : Request) : Handler σ :=
  service.rules.layer <| Access.gate service.tokens .service true (service.table.target request)

/-- Every request that gets past them is answered there, unless its time is up. -/
theorem behind_answering [Dependencies σ] {server : ServerConfig} {tokens : TokenConfig}
    {service : Service σ} (built : build server tokens = .ok service) (request : Request) :
    Answering (service.behind request) :=
  cors_answering service.rules (gate_answering service.tokens .service true
    (target_answering built request))

theorem limiters_disabled (server : ServerConfig) : limiters server.withoutLimiters = [] := rfl

theorem build_without_limiters [Dependencies σ] {server : ServerConfig} {tokens : TokenConfig}
    {service : Service σ} (built : build server tokens = .ok service) :
    build server.withoutLimiters tokens = .ok service.withoutLimiters := by
  obtain ⟨table, routed, rest⟩ := bind_ok_iff.mp built
  obtain ⟨rules, ruled, rest⟩ := bind_ok_iff.mp rest
  obtain ⟨_, checked, same⟩ := bind_ok_iff.mp rest
  cases same
  exact bind_ok_iff.mpr ⟨table, routed, bind_ok_iff.mpr ⟨rules, ruled,
    bind_ok_iff.mpr ⟨_, checked, rfl⟩⟩⟩

theorem entered_clock (service : Service σ) (request : Request) (world : World σ) :
    (service.entered request world).clock = world.clock := by
  unfold entered Metrics.Tracking.entered
  split
  · rfl
  · rfl

theorem entered_store (service : Service σ) (request : Request) (world : World σ) :
    (service.entered request world).store = world.store := by
  unfold entered Metrics.Tracking.entered
  split
  · rfl
  · rfl

theorem entered_has_time (service : Service σ) (request : Request) (world : World σ)
    (pause : Nanos) :
    (service.entered request world).HasTime pause ↔ pause < service.timeAllowed := by
  have ahead : 0 < service.timeAllowed :=
    Nat.mul_pos (Nat.lt_of_lt_of_le Nat.one_pos (Nat.le_max_right _ 1)) (by decide)
  exact World.has_time_of_left _ service.timeAllowed pause ahead rfl

variable [CounterStore σ]

/-- The limiters as one layer. -/
def limiting (service : Service σ) : Layer σ :=
  RateLimit.stack service.server.limits.timeout (limiters service.server)

/-- Every request is answered, and the limiters with what stands behind them decide the status. -/
theorem handle_status (service : Service σ) (freshId : Bytes) (request : Request)
    (world : World σ) :
    (service.handle freshId request).status world =
      .ok (Stages.settled ((service.limiting (service.behind request)
        (service.arriving freshId request)).status (service.entered request world))) := by
  unfold handle stages
  rw [Router.Table.serve_status, Stages.request_id_status, Stages.catch_breakdown_status,
    Hardening.layer_status, Stages.compress_status, Metrics.Tracking.layer_status,
    Stages.time_limit_status]
  exact Stages.answered_settled _

/-- The inquiries that the limiters make for a request. -/
def inquiries (service : Service σ) (freshId : Bytes) (request : Request) (world : World σ) :
    List (Inquiry σ) :=
  RateLimit.inquiries service.server.limits.timeout (limiters service.server)
    (service.arriving freshId request) (service.entered request world)

/-- No inquiry returns a count above its limit. -/
def WithinLimits (service : Service σ) (freshId : Bytes) (request : Request)
    (world : World σ) : Prop :=
  ∀ inquiry ∈ service.inquiries freshId request world,
    ¬ inquiry.Exceeds service.server.limits.timeout

instance (service : Service σ) (freshId : Bytes) (request : Request) (world : World σ) :
    Decidable (service.WithinLimits freshId request world) :=
  inferInstanceAs (Decidable (∀ inquiry ∈ service.inquiries freshId request world, _))

/-- No inquiry breaks down. -/
def NoneBreaks (service : Service σ) (freshId : Bytes) (request : Request)
    (world : World σ) : Prop :=
  Unbroken service.server.limits.timeout (service.inquiries freshId request world)

instance (service : Service σ) (freshId : Bytes) (request : Request) (world : World σ) :
    Decidable (service.NoneBreaks freshId request world) :=
  inferInstanceAs (Decidable (Unbroken _ _))

/-- How long a request waits at the limiters, one after the other. -/
def waits (service : Service σ) (freshId : Bytes) (request : Request) (world : World σ) :
    Nanos :=
  waited service.server.limits.timeout (service.inquiries freshId request world)

/-- What becomes of a request at the limiters. -/
def passage (service : Service σ) (freshId : Bytes) (request : Request) (world : World σ) :
    Passage σ :=
  RateLimit.passage service.server.limits.timeout (limiters service.server)
    (service.arriving freshId request) (service.entered request world)

theorem limiting_disabled (service : Service σ) (next : Handler σ) :
    service.withoutLimiters.limiting next = next := by
  unfold limiting withoutLimiters
  rw [limiters_disabled]
  rfl

/-- No request goes without an answer. -/
theorem handle_answers (service : Service σ) (freshId : Bytes) (request : Request)
    (world : World σ) :
    (service.handle freshId request).status world =
      .ok (Stages.settled ((service.handle freshId request).status world)) := by
  rw [handle_status]
  rfl

/-- The inquiries of the limiters explain what becomes of a request there. -/
theorem passage_explained (service : Service σ) (freshId : Bytes) (request : Request)
    (world : World σ) :
    match service.passage freshId request world with
    | .passed _ after => service.NoneBreaks freshId request world ∧
        service.waits freshId request world < service.timeAllowed ∧
        after.clock =
          ((service.entered request world).later (service.waits freshId request world)).clock ∧
        after.deadline = (service.entered request world).deadline
    | .denied _ _ => ∃ inquiry ∈ service.inquiries freshId request world,
        inquiry.Exceeds service.server.limits.timeout
    | .ended .timeUp _ => ¬ service.waits freshId request world < service.timeAllowed
    | .ended (.broken _) _ => ¬ service.NoneBreaks freshId request world := by
  have explained := stages_explained service.server.limits.timeout (limiters service.server)
    (service.arriving freshId request) (service.entered request world)
  unfold Explained at explained
  rw [entered_has_time] at explained
  exact explained

/-- Where no count is above its limit, a request ends at the limiters only because an inquiry breaks
down or because the waits take all its time. -/
theorem limiters_account (service : Service σ) (freshId : Bytes) (request : Request)
    (world : World σ) (within : service.WithinLimits freshId request world) :
    (service.NoneBreaks freshId request world ∧
        service.waits freshId request world < service.timeAllowed →
      ∃ mark after, service.passage freshId request world = .passed mark after) ∧
      (¬ (service.NoneBreaks freshId request world ∧
          service.waits freshId request world < service.timeAllowed) →
        ∃ interrupt final, service.passage freshId request world = .ended interrupt final) := by
  have explained := service.passage_explained freshId request world
  cases through : service.passage freshId request world with
  | passed mark after =>
    rw [through] at explained
    obtain ⟨unbroken, timely, _⟩ := explained
    exact ⟨fun _ => ⟨mark, after, rfl⟩, fun hindered => absurd ⟨unbroken, timely⟩ hindered⟩
  | denied answer after =>
    rw [through] at explained
    obtain ⟨inquiry, member, exceeds⟩ := explained
    exact absurd exceeds (within inquiry member)
  | ended interrupt after =>
    rw [through] at explained
    refine ⟨fun free => ?_, fun _ => ⟨interrupt, after, rfl⟩⟩
    cases interrupt with
    | timeUp => exact absurd free.2 explained
    | broken payload => exact absurd free.1 explained

/-- Whether the limiters pass a request on does not depend on what stands behind them: no inquiry may
break down, and the waits have to be shorter than the time of the request. -/
theorem passes_on_iff (service : Service σ) (freshId : Bytes) (request : Request)
    (world : World σ) (within : service.WithinLimits freshId request world) :
    PassesOn service.limiting (service.arriving freshId request)
        (service.entered request world) ↔
      service.NoneBreaks freshId request world ∧
        service.waits freshId request world < service.timeAllowed := by
  obtain ⟨passes, ends⟩ := service.limiters_account freshId request world within
  unfold passage at passes ends
  unfold PassesOn limiting
  simp only [stack_passage]
  constructor
  · rintro ⟨mark, after, passed⟩
    refine Classical.byContradiction fun hindered => ?_
    obtain ⟨interrupt, final, ended⟩ := ends hindered
    have answered := passed fun _ => return .ofStatus 200
    rw [ended] at answered
    cases answered
  · intro free
    obtain ⟨mark, after, passed⟩ := passes free
    refine ⟨mark, after, fun next => ?_⟩
    rw [passed]
    rfl

/-- Limiters that could not spend the time of a request if they tried never keep it. -/
theorem short_timeouts_pass_on (service : Service σ) (freshId : Bytes) (request : Request)
    (world : World σ) (within : service.WithinLimits freshId request world)
    (sound : service.NoneBreaks freshId request world)
    (short : (limiters service.server).length * service.server.limits.timeout <
      service.timeAllowed) :
    PassesOn service.limiting (service.arriving freshId request)
      (service.entered request world) := by
  rw [passes_on_iff service freshId request world within]
  exact ⟨sound, Nat.lt_of_le_of_lt (waited_le _ _ _ _) short⟩

/-- A request that is passed on has the rest of its time left. -/
theorem passed_has_time {service : Service σ} {freshId : Bytes} {request : Request}
    {world after : World σ} {mark : Headers → Headers}
    (passed : service.passage freshId request world = .passed mark after) (pause : Nanos) :
    after.HasTime pause ↔
      service.waits freshId request world + pause < service.timeAllowed := by
  have explained := service.passage_explained freshId request world
  rw [passed] at explained
  obtain ⟨_, timely, clock, deadline⟩ := explained
  rw [← entered_has_time] at timely
  have left : after.HasTime pause ↔
      ((service.entered request world).later (service.waits freshId request world)).HasTime
        pause := by
    unfold World.HasTime
    rw [clock, deadline]
    rfl
  rw [left, ← entered_has_time, World.has_time_add]
  exact (and_iff_right timely).symm

/-- It finds the clocks as much later as it has waited. -/
theorem passed_clock {service : Service σ} {freshId : Bytes} {request : Request}
    {world after : World σ} {mark : Headers → Headers}
    (passed : service.passage freshId request world = .passed mark after) :
    after.clock = world.clock.later (service.waits freshId request world) := by
  have explained := service.passage_explained freshId request world
  rw [passed] at explained
  obtain ⟨_, _, clock, _⟩ := explained
  rw [clock, World.later, entered_clock]

/-- A request for the status of the service, from 203.0.113.9. -/
def statusRequest : Request :=
  ⟨"GET", "/status", ⟨[("x-forwarded-for", [50, 48, 51, 46, 48, 46, 49, 49, 51, 46, 57])]⟩, [],
    none, none, none⟩

/-- A service that can be built is there, with all that holds of whatever is built. -/
theorem built_with {σ : Type} [Dependencies σ] (server : ServerConfig) (tokens : TokenConfig)
    (holds : Service σ → Prop)
    (succeeds : (build server tokens : Except BuildDefect (Service σ)).toOption.isSome)
    (each : ∀ service ∈ (build server tokens : Except BuildDefect (Service σ)).toOption,
      holds service) :
    ∃ service, build server tokens = .ok service ∧ holds service := by
  cases built : (build server tokens : Except BuildDefect (Service σ)) with
  | error defect =>
    rw [built] at succeeds
    cases succeeds
  | ok service =>
    rw [built] at each
    exact ⟨service, rfl, each service rfl⟩

end Service
end Gatehouse
