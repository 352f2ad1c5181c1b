import Gatehouse.Proofs.Metrics.Tables
import Gatehouse.Proofs.Service.Answered
import Mathlib.Algebra.BigOperators.Group.Finset.Piecewise
import Mathlib.Logic.Relation

/-! The series about requests: how many there were, how long they took, how large they and their answers
were. An answered request is counted in all of them at once and nothing else is counted in any of them,
so they stay in step. Requests may overlap, and some may never be answered. -/
namespace Gatehouse

open RateLimit

variable {σ : Type}

namespace Metrics

/-! ## One answer -/

/-- Between two states of the counts one request has been answered, and counted under its labels. -/
structure Counted (method path status : String) (before after : Metrics) : Prop where
  requests : ∀ labels, after.requests.count labels =
    before.requests.count labels + if [method, path, status] = labels then 1 else 0
  durations : ∀ labels, after.durations.count labels =
    before.durations.count labels + if [method, path, status] = labels then 1 else 0
  responseSizes : ∀ labels, after.responseSizes.observations labels =
    before.responseSizes.observations labels + if [method, path, status] = labels then 1 else 0
  requestSizes : ∀ labels, after.requestSizes.observations labels =
    before.requestSizes.observations labels + if [method, path] = labels then 1 else 0
  inFlight : after.inFlight = before.inFlight - 1

theorem settle_counted (request : Request) (answer : Response) (counts : Metrics) :
    Counted request.method (request.route.getD unmatched) (Numeral.decimal answer.status) counts
      (settle request answer counts) where
  requests := Table.count_raised counts.requests _
  durations := Table.count_raised counts.durations _
  responseSizes labels := Table.observations_raised counts.responseSizes _ labels sizeBounds _
  requestSizes labels := Table.observations_raised counts.requestSizes _ labels sizeBounds _
  inFlight := rfl

/-! ## Agreement -/

/-- The series agree with each other. Those about sizes of requests do not tell statuses apart, so there
the counts of all statuses come together, of which only some are there at all. -/
structure Agree (counts : Metrics) : Prop where
  durations : ∀ method path status,
    counts.durations.count [method, path, status] = counts.requests.count [method, path, status]
  responseSizes : ∀ method path status, counts.responseSizes.observations [method, path, status] =
    counts.requests.count [method, path, status]
  requestSizes : ∀ method path, ∃ statuses : Finset String,
    (∀ status ∉ statuses, counts.requests.count [method, path, status] = 0) ∧
      counts.requestSizes.observations [method, path] =
        ∑ status ∈ statuses, counts.requests.count [method, path, status]

theorem empty_agrees : Agree .empty where
  durations _ _ _ := rfl
  responseSizes _ _ _ := rfl
  requestSizes _ _ := ⟨∅, fun _ _ => rfl, rfl⟩

variable {before after : Metrics} {method path status : String}

/-- Decisions and rejections have no part in it. -/
theorem Agree.of_http (agree : before.Agree) (same : after.http = before.http) : after.Agree := by
  have http : before.http.Agree := ⟨agree.durations, agree.responseSizes, agree.requestSizes⟩
  rw [← same] at http
  exact ⟨http.durations, http.responseSizes, http.requestSizes⟩

/-- Under any status an answer is counted once if the status, the method and the path are its own. -/
private theorem Counted.requests_own (counted : Counted method path status before after)
    (verb label code : String) :
    after.requests.count [verb, label, code] = before.requests.count [verb, label, code] +
      if code = status then (if [method, path] = [verb, label] then 1 else 0) else 0 := by
  rw [counted.requests]
  by_cases own : [method, path] = [verb, label]
  · cases own
    by_cases same : code = status
    · simp [same]
    · simp [same, Ne.symm same]
  · have other : [method, path, status] ≠ [verb, label, code] := by
      intro same
      cases same
      exact own rfl
    simp [own, other]

/-- An answer keeps the series in step. Its status may be a new one for its method and path. -/
theorem Counted.agree (counted : Counted method path status before after) (agree : before.Agree) :
    after.Agree := by
  constructor
  · intro verb label code
    rw [counted.durations, counted.requests, agree.durations]
  · intro verb label code
    rw [counted.responseSizes, counted.requests, agree.responseSizes]
  · intro verb label
    obtain ⟨statuses, outside, total⟩ := agree.requestSizes verb label
    refine ⟨insert status statuses, fun code absent => ?_, ?_⟩
    · rw [Finset.mem_insert, not_or] at absent
      rw [counted.requests_own, outside code absent.2, if_neg absent.1]
    · have former : ∑ code ∈ insert status statuses, before.requests.count [verb, label, code] =
          ∑ code ∈ statuses, before.requests.count [verb, label, code] :=
        Finset.sum_insert_of_eq_zero_if_notMem (outside status)
      rw [counted.requestSizes, total, Finset.sum_congr rfl fun code _ =>
        counted.requests_own verb label code, Finset.sum_add_distrib, former, Finset.sum_ite_eq',
        if_pos (Finset.mem_insert_self _ _)]

/-! ## Moves -/

/-- What can happen to the counts. A request comes in, or one is answered, or something else is counted
which is not about requests. Requests need not be answered in the order in which they come, and not at
all. -/
inductive Move : Metrics → Metrics → Prop
  | enters {counts : Metrics} : Move counts counts.enter
  | leaves {counts : Metrics} (request : Request) (answer : Response) :
      Move counts (settle request answer counts)
  | others {counts after : Metrics} (same : after.http = counts.http) : Move counts after

theorem Move.agree (move : Move before after) (agree : before.Agree) : after.Agree := by
  cases move with
  | enters => exact ⟨agree.durations, agree.responseSizes, agree.requestSizes⟩
  | leaves request answer => exact (settle_counted request answer before).agree agree
  | others same => exact agree.of_http same

theorem moves_agree (moves : Relation.ReflTransGen Move before after) (agree : before.Agree) :
    after.Agree := by
  induction moves with
  | refl => exact agree
  | tail _ move ih => exact move.agree ih

/-! ## One request -/

namespace Tracking

variable (tracking : Tracking) (world : World σ)

theorem entered_moves (path : String) :
    Relation.ReflTransGen Move world.metrics (tracking.entered path world).metrics := by
  unfold entered
  split
  · exact .single .enters
  · exact .refl

theorem settled_moves (request : Request) (answer : Response) :
    Relation.ReflTransGen Move world.metrics (tracking.settled request answer world).metrics := by
  unfold settled
  split
  · exact .single (.leaves request answer)
  · exact .refl

end Tracking

/-- A request on its way through the counting: what stands behind, and the world that it finds. -/
structure Transit (σ : Type) where
  next : Handler σ
  request : Request
  world : World σ

namespace Transit

variable (tracking : Tracking) (transit : Transit σ)

/-- What comes of the request behind the counting. -/
def inner : Except Interrupt Response × World σ :=
  (transit.next transit.request).perform (tracking.entered transit.request.path transit.world)

/-- What comes of the request as a whole. -/
def outer : Except Interrupt Response × World σ :=
  (tracking.layer transit.next transit.request).perform transit.world

theorem outer_answered {answer : Response} (answered : (transit.inner tracking).1 = .ok answer) :
    transit.outer tracking =
      (.ok answer, tracking.settled transit.request answer (transit.inner tracking).2) := by
  have performed : transit.outer tracking = _ := tracking.layer_perform _ _ _
  unfold inner at answered ⊢
  generalize (transit.next transit.request).perform _ = last at performed answered ⊢
  obtain ⟨outcome, after⟩ := last
  cases answered
  exact performed

theorem outer_interrupted {interrupt : Interrupt}
    (interrupted : (transit.inner tracking).1 = .error interrupt) :
    transit.outer tracking = transit.inner tracking := by
  have performed : transit.outer tracking = _ := tracking.layer_perform _ _ _
  unfold inner at interrupted ⊢
  generalize (transit.next transit.request).perform _ = last at performed interrupted ⊢
  obtain ⟨outcome, after⟩ := last
  cases interrupted
  exact performed

/-- If nothing but moves is made behind the counting, then nothing else is made with it. -/
theorem outer_moves (behind : Relation.ReflTransGen Move
      (tracking.entered transit.request.path transit.world).metrics
      (transit.inner tracking).2.metrics) :
    Relation.ReflTransGen Move transit.world.metrics (transit.outer tracking).2.metrics := by
  have moves := (tracking.entered_moves transit.world transit.request.path).trans behind
  cases outcome : (transit.inner tracking).1 with
  | ok answer =>
    rw [transit.outer_answered tracking outcome]
    exact moves.trans (tracking.settled_moves _ transit.request answer)
  | error interrupt =>
    rw [transit.outer_interrupted tracking outcome]
    exact moves

end Transit

/-! ## Runs -/

/-- Requests that come one after another. Before each of them, and while it is being answered, other
requests may make their moves. -/
inductive Runs (tracking : Tracking) : Metrics → List (Transit σ) → Metrics → Prop
  | nil {counts : Metrics} : Runs tracking counts [] counts
  | cons {counts last : Metrics} {transit : Transit σ} {rest : List (Transit σ)}
      (before : Relation.ReflTransGen Move counts transit.world.metrics)
      (meanwhile : Relation.ReflTransGen Move
        (tracking.entered transit.request.path transit.world).metrics
        (transit.inner tracking).2.metrics)
      (others : Runs tracking (transit.outer tracking).2.metrics rest last) :
      Runs tracking counts (transit :: rest) last

theorem Runs.moves {tracking : Tracking} {counts last : Metrics} {run : List (Transit σ)}
    (runs : Runs tracking counts run last) : Relation.ReflTransGen Move counts last := by
  induction runs with
  | nil => exact .refl
  | cons before meanwhile _ ih => exact (before.trans (Transit.outer_moves _ _ meanwhile)).trans ih

/-- The series agree in every state that can be reached, and so behind every run of requests, whichever
of them break down. A request that is skipped, or that comes when nothing is recorded, is left to what
stands behind the counting. Any other one is counted once it is answered, under its method, the
template of its route or the label for a path without one, and the status of its answer. -/
theorem http_series_agree (tracking : Tracking) :
    (∀ counts, Relation.ReflTransGen Move .empty counts → counts.Agree) ∧
      (∀ (run : List (Transit σ)) last, Runs tracking .empty run last → last.Agree) ∧
      ∀ (table : Router.Table σ) (sent : Request) (next : Handler σ) (world : World σ),
        let transit : Transit σ := ⟨next, table.routed sent, world⟩
        let inner := transit.inner tracking
        let outer := transit.outer tracking
        let label := ((table.find? sent.path).map (·.template.text)).getD unmatched
        (tracking.enabled = false ∨ sent.path ∈ tracking.skipped →
          outer = (next transit.request).perform world) ∧
        (tracking.enabled = true → sent.path ∉ tracking.skipped →
          (∀ answer, inner.1 = .ok answer → outer.1 = .ok answer ∧
            Counted sent.method label (Numeral.decimal answer.status) inner.2.metrics
              outer.2.metrics) ∧
          ∀ interrupt, inner.1 = .error interrupt → outer = inner) := by
  have reachable (counts : Metrics) (moves : Relation.ReflTransGen Move .empty counts) :
      counts.Agree := moves_agree moves empty_agrees
  refine ⟨reachable, fun _ last runs => reachable last runs.moves, ?_⟩
  intro table sent next world transit inner outer label
  have path : transit.request.path = sent.path := rfl
  constructor
  · intro left_out
    have skipped : tracking.counts transit.request.path = false := by
      unfold Tracking.counts
      rw [path]
      rcases left_out with off | member
      · rw [off]
        rfl
      · simp [member]
    change (tracking.layer next transit.request).perform world = _
    unfold Tracking.layer
    rw [skipped]
    rfl
  · intro enabled kept
    have counted : tracking.counts transit.request.path = true := by
      unfold Tracking.counts
      rw [path]
      simp [enabled, kept]
    refine ⟨fun answer answered => ?_, fun _ => transit.outer_interrupted tracking⟩
    have performed : outer = _ := transit.outer_answered tracking answered
    rw [performed]
    refine ⟨rfl, ?_⟩
    unfold Tracking.settled
    rw [if_pos counted]
    exact settle_counted transit.request answer _

/-- Two users are asked for, the second in vain, and then the metrics, which are not counted. -/
theorem http_series_agree_mixed_run :
    let tracking : Tracking := .of true "/metrics" []
    let users : Router.Template :=
      ⟨"/users/\x7bid\x7d", "/users/".toList.map .literal ++ [.parameter "id"]⟩
    let table : Router.Table Unit := ⟨[⟨users, .every fun _ => return .ofStatus 200⟩], none⟩
    let sent (path : String) : Request := table.routed ⟨"GET", path, .empty, [], none, none, none⟩
    let first : Transit Unit := ⟨fun _ => return .ofStatus 200, sent "/users/1", World.start 0 ()⟩
    let second : Transit Unit :=
      ⟨fun _ => throw (.broken none), sent "/users/2", (first.outer tracking).2⟩
    let third : Transit Unit :=
      ⟨fun _ => return .ofStatus 200, sent "/metrics", (second.outer tracking).2⟩
    let last := (third.outer tracking).2.metrics
    Runs tracking .empty [first, second, third] last ∧ last.Agree ∧
      last = (second.outer tracking).2.metrics ∧ last.inFlight = 1 ∧
      last.requests.count ["GET", "/users/\x7bid\x7d", "200"] = 1 := by
  intro tracking users table sent first second third last
  have runs : Runs tracking .empty [first, second, third] last :=
    .cons .refl .refl (.cons .refl .refl (.cons .refl .refl .nil))
  obtain ⟨_, agrees, each⟩ := http_series_agree (σ := Unit) tracking
  have skipped : third.outer tracking = (third.next third.request).perform third.world :=
    (each table ⟨"GET", "/metrics", .empty, [], none, none, none⟩ _ _).1 (.inr (by decide))
  refine ⟨runs, agrees _ _ runs, ?_, by decide +kernel, by decide +kernel⟩
  exact congrArg (·.2.metrics) skipped

end Metrics

namespace Service

variable [CounterStore σ] [Dependencies σ] {server : ServerConfig} {tokens : TokenConfig}
  {service : Service σ}

/-- A service makes no other moves. -/
theorem handle_moves (built : build server tokens = .ok service) (freshId : Bytes)
    (request : Request) (world : World σ) :
    Relation.ReflTransGen Metrics.Move world.metrics
      ((service.handle freshId request).perform world).2.metrics := by
  have enters := service.tracking.entered_moves world request.path
  rcases handle_outcomes built freshId request world with
    ⟨_, answer, after, _, kept, performed⟩ | ⟨_, after, kept, performed⟩
  · rw [performed]
    exact (enters.tail (.others kept)).trans (service.tracking.settled_moves after _ answer)
  · rw [performed]
    exact enters.tail (.others kept)

end Service
end Gatehouse
