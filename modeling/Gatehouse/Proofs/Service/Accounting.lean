import Gatehouse.Proofs.Metrics.Tables
import Gatehouse.Proofs.Service.Answered

/-! What the counts of requests say after a run. A request that is counted in is counted out with its
answer, under its method, its route and the status that the client gets; but a breakdown of the limiters
unwinds past the counting. Such a request stays in flight for ever, and its answer is counted nowhere. -/
namespace Gatehouse

open RateLimit

variable {σ : Type}

/-! ## One request -/

namespace Metrics.Tracking

theorem entered_traffic (tracking : Tracking) (path : String) (world : World σ) :
    (tracking.entered path world).traffic =
      (world.traffic.1, world.traffic.2 + if tracking.counts path then 1 else 0) := by
  unfold entered
  cases tracking.counts path with
  | false => exact Prod.ext rfl (Int.add_zero _).symm
  | true => rfl

theorem settled_traffic (tracking : Tracking) (request : Request) (answer : Response)
    (world : World σ) :
    (tracking.settled request answer world).traffic =
      if tracking.counts request.path then
        (world.traffic.1.update
          [request.method, request.route.getD unmatched, Numeral.decimal answer.status] 0 (· + 1),
          world.traffic.2 - 1)
      else world.traffic := by
  unfold settled
  cases tracking.counts request.path with
  | false => rfl
  | true => rfl

end Metrics.Tracking

/-- A request that comes to a service, and the world that it finds there. -/
structure Reception (σ : Type) where
  freshId : Bytes
  request : Request
  world : World σ

namespace Reception

variable (service : Service σ) (reception : Reception σ)

/-- Whether the request is for one of the paths that are never counted. -/
def skipped : Bool :=
  (service.server.metrics.path :: service.server.metrics.excluded).contains reception.request.path

variable [CounterStore σ]

/-- The world behind the request. -/
def left : World σ :=
  ((service.handle reception.freshId reception.request).perform reception.world).2

/-- The status that the client gets. -/
def status : Nat :=
  Stages.settled ((service.handle reception.freshId reception.request).status reception.world)

/-- What the request is to be counted under: its method, the template of its route or the label for a
path without one, and the status that the client gets. -/
def labels : List String :=
  [reception.request.method,
    ((service.table.find? reception.request.path).map (·.template.text)).getD Metrics.unmatched,
    Numeral.decimal (reception.status service)]

/-- The request is to be counted under some labels. -/
def Due (labels : List String) : Prop :=
  reception.skipped service = false ∧ reception.labels service = labels

/-- The request is to be counted, but the limiters break down on it. -/
def Lost : Prop :=
  reception.skipped service = false ∧
    service.BreaksDown reception.freshId reception.request reception.world

instance (labels : List String) : Decidable (reception.Due service labels) :=
  inferInstanceAs (Decidable (_ ∧ _))

instance : Decidable (reception.Lost service) := inferInstanceAs (Decidable (_ ∧ _))

variable {service} {reception}

theorem status_of_answer {answer : Response} {after : World σ}
    (performed : (service.handle reception.freshId reception.request).perform reception.world =
      (.ok answer, after)) : reception.status service = answer.status := by
  unfold status Run.status
  rw [performed]
  rfl

/-- What a request does to the counts of requests: one more in flight if it is lost, and otherwise one
more under its labels, unless its path is skipped. -/
theorem left_traffic [Dependencies σ] {server : ServerConfig} {tokens : TokenConfig}
    (built : Service.build server tokens = .ok service)
    (enabled : service.server.metrics.enabled = true) (reception : Reception σ)
    (labels : List String) :
    (reception.left service).traffic.2 =
        reception.world.traffic.2 + (if reception.Lost service then 1 else 0) ∧
      (reception.left service).traffic.1.count labels =
        reception.world.traffic.1.count labels +
          if reception.Due service labels ∧ ¬ reception.Lost service then 1 else 0 := by
  have counts : service.tracking.counts reception.request.path = !reception.skipped service := by
    unfold Service.tracking Metrics.Tracking.counts Metrics.Tracking.of skipped
    rw [enabled]
    rfl
  unfold left Lost Due
  rcases Service.handle_cases built reception.freshId reception.request reception.world with
    ⟨sound, answer, after, _, kept, performed⟩ | ⟨broken, after, kept, performed⟩
  · have status := status_of_answer performed
    rw [Service.sent_status, Service.hardened_status] at status
    have path : (service.arriving reception.freshId reception.request).path =
      reception.request.path := rfl
    rw [performed, Metrics.Tracking.settled_traffic, path, kept, Metrics.Tracking.entered_traffic,
      counts]
    by_cases skips : reception.skipped service = true
    · simp [skips]
    · simp only [skips, sound, Bool.not_false, if_true, and_false, if_false, not_false_eq_true,
        true_and, and_true, Int.add_sub_cancel, Int.add_zero, Metrics.Table.count_raised]
      unfold Reception.labels
      rw [status]
      rfl
  · rw [performed, kept, Metrics.Tracking.entered_traffic, counts]
    by_cases skips : reception.skipped service = true
    · simp [skips]
    · simp [skips, broken]

/-! ## A run -/

/-- Requests one after another, each of which finds the counts that the one before it has left. What else
becomes of the world in between does not matter. -/
def Linked (service : Service σ) : Metrics.Table Nat × Int → List (Reception σ) → Prop
  | _, [] => True
  | traffic, reception :: rest =>
    reception.world.traffic = traffic ∧ Linked service (reception.left service).traffic rest

/-- The counts behind a run. -/
def trafficAfter (service : Service σ) :
    Metrics.Table Nat × Int → List (Reception σ) → Metrics.Table Nat × Int
  | traffic, [] => traffic
  | _, reception :: rest => trafficAfter service (reception.left service).traffic rest

/-- Over a run the requests in flight grow by those that are lost, and the counts by the others. -/
theorem run_traffic [Dependencies σ] {server : ServerConfig} {tokens : TokenConfig}
    (built : Service.build server tokens = .ok service)
    (enabled : service.server.metrics.enabled = true) (labels : List String)
    (run : List (Reception σ)) (traffic : Metrics.Table Nat × Int)
    (linked : Linked service traffic run) :
    let after := trafficAfter service traffic run
    after.2 = traffic.2 + run.countP (fun reception => reception.Lost service) ∧
      after.1.count labels = traffic.1.count labels +
        run.countP fun reception => reception.Due service labels ∧ ¬ reception.Lost service := by
  induction run generalizing traffic with
  | nil => exact ⟨(Int.add_zero _).symm, rfl⟩
  | cons reception rest ih =>
    obtain ⟨found, linked⟩ := linked
    obtain ⟨flight, counted⟩ := left_traffic built enabled reception labels
    obtain ⟨flight_rest, counted_rest⟩ := ih _ linked
    rw [flight, found] at flight_rest
    rw [counted, found] at counted_rest
    unfold trafficAfter
    refine ⟨flight_rest.trans ?_, counted_rest.trans ?_⟩
    · rw [List.countP_cons]
      by_cases lost : reception.Lost service
      · simp only [lost, if_true, decide_true]
        omega
      · simp only [lost, if_false, decide_false, Bool.false_eq_true]
        omega
    · rw [List.countP_cons, Nat.add_assoc, Nat.add_comm (List.countP _ rest)]
      simp only [decide_eq_true_eq]

/-- Every request of a run is answered. Behind the run there are as many more requests in flight as were
lost to breakdowns of the limiters, and under any labels as many more have been counted as were due
there and not lost. So nothing stays in flight and every request that is due is counted if and only if
no request is lost. -/
theorem requests_accounted_iff [Dependencies σ] {server : ServerConfig} {tokens : TokenConfig}
    {service : Service σ} (built : Service.build server tokens = .ok service)
    (enabled : service.server.metrics.enabled = true) (run : List (Reception σ))
    (traffic : Metrics.Table Nat × Int) (linked : Linked service traffic run) :
    let after := trafficAfter service traffic run
    (∀ reception ∈ run, ∃ answer,
      (service.handle reception.freshId reception.request).perform reception.world =
          (.ok answer, reception.left service) ∧ answer.status = reception.status service) ∧
      after.2 = traffic.2 + run.countP (fun reception => reception.Lost service) ∧
      (∀ labels, after.1.count labels = traffic.1.count labels +
        run.countP fun reception => reception.Due service labels ∧ ¬ reception.Lost service) ∧
      ((after.2 = traffic.2 ∧ ∀ labels, after.1.count labels =
          traffic.1.count labels + run.countP fun reception => reception.Due service labels) ↔
        ∀ reception ∈ run, ¬ reception.Lost service) := by
  intro after
  have flight : after.2 = traffic.2 + run.countP (fun reception => reception.Lost service) :=
    (run_traffic built enabled [] run traffic linked).1
  have counted (labels : List String) : after.1.count labels = traffic.1.count labels +
      run.countP fun reception => reception.Due service labels ∧ ¬ reception.Lost service :=
    (run_traffic built enabled labels run traffic linked).2
  refine ⟨fun reception _ => ?_, flight, counted, ?_, ?_⟩
  · rcases Service.handle_cases built reception.freshId reception.request reception.world with
      ⟨_, answer, last, _, _, performed⟩ | ⟨_, last, _, performed⟩
    · exact ⟨_, performed.trans (by rw [left, performed]), (status_of_answer performed).symm⟩
    · exact ⟨_, performed.trans (by rw [left, performed]), (status_of_answer performed).symm⟩
  · rintro ⟨balanced, _⟩ reception member lost
    have none_lost : run.countP (fun reception => reception.Lost service) = 0 := by
      omega
    exact List.countP_eq_zero.mp none_lost reception member (decide_eq_true lost)
  · intro kept
    have none_lost : run.countP (fun reception => reception.Lost service) = 0 :=
      List.countP_eq_zero.mpr fun reception member lost =>
        kept reception member (of_decide_eq_true lost)
    refine ⟨by rw [flight, none_lost]; exact Int.add_zero _, fun labels => ?_⟩
    rw [counted labels]
    refine congrArg _ (List.countP_congr fun reception member => ?_)
    simp only [kept reception member, not_false_eq_true, and_true]

/-- A request for who the caller is, without a token. -/
def meRequest : Request := { Service.statusRequest with path := "/me" }

/-- Two requests that are counted within their limit and rejected. -/
theorem requests_accounted_two :
    let first : Reception PreparedStore := ⟨[], meRequest,
      World.start 1_700_000_000_000_000_000
        (.ofReplies [⟨.snapshot ⟨1, 60⟩, 0⟩, ⟨.snapshot ⟨2, 60⟩, 0⟩])⟩
    ∃ service : Service PreparedStore, Service.build .standard .standard = .ok service ∧
      service.server.metrics.enabled = true ∧
      let run : List (Reception PreparedStore) := [first, ⟨[], meRequest, first.left service⟩]
      Linked service (.empty, 0) run ∧ (trafficAfter service (.empty, 0) run).2 = 0 ∧
        (trafficAfter service (.empty, 0) run).1.count ["GET", "/me", "401"] = 2 := by
  intro first
  obtain ⟨service, built, enabled, kept, due⟩ := Service.built_with .standard .standard
    (fun service : Service PreparedStore =>
      let run : List (Reception PreparedStore) := [first, ⟨[], meRequest, first.left service⟩]
      service.server.metrics.enabled = true ∧ (∀ reception ∈ run, ¬ reception.Lost service) ∧
        run.countP (fun reception => reception.Due service ["GET", "/me", "401"]) = 2)
    (by decide +kernel) (by decide +kernel)
  have linked : Linked service (.empty, 0) [first, ⟨[], meRequest, first.left service⟩] :=
    ⟨rfl, rfl, trivial⟩
  obtain ⟨balanced, counted⟩ :=
    (requests_accounted_iff built enabled _ _ linked).2.2.2.mpr kept
  refine ⟨service, built, enabled, linked, balanced, (counted _).trans ?_⟩
  rw [due]
  rfl

/-- A request on which the counter store breaks down stays in flight, and its answer is not counted. -/
theorem broken_store_unaccounted :
    let lost : Reception PreparedStore := ⟨[], meRequest,
      World.start 1_700_000_000_000_000_000 (.ofReplies [⟨.broken (some "boom"), 0⟩])⟩
    ∃ service : Service PreparedStore, Service.build .standard .standard = .ok service ∧
      service.server.metrics.enabled = true ∧ Linked service (.empty, 0) [lost] ∧
      lost.Due service ["GET", "/me", "500"] ∧
      (trafficAfter service (.empty, 0) [lost]).2 = 1 ∧
      (trafficAfter service (.empty, 0) [lost]).1.count ["GET", "/me", "500"] = 0 := by
  intro lost
  obtain ⟨service, built, enabled, due, flight, counted⟩ := Service.built_with .standard .standard
    (fun service : Service PreparedStore => service.server.metrics.enabled = true ∧
      lost.Due service ["GET", "/me", "500"] ∧
      (trafficAfter service (.empty, 0) [lost]).2 = 1 ∧
      (trafficAfter service (.empty, 0) [lost]).1.count ["GET", "/me", "500"] = 0)
    (by decide +kernel) (by decide +kernel)
  exact ⟨service, built, enabled, ⟨rfl, trivial⟩, due, flight, counted⟩

end Reception
end Gatehouse
