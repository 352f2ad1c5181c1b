import Gatehouse.Proofs.RateLimit.InProcess
import Gatehouse.Proofs.Service.FailOpen

/-! Breakdowns of limiters. Three ranges meet in one stage: the seconds of its window, the timer of the
store and the calendar. Below them everything is guarded, and what is refused there lets the request
go by; beyond them nothing is, so that a stage breaks down and the service answers for it. -/
namespace Gatehouse
namespace RateLimit

/-- The first call on a key is in range as far as its whole window is. -/
theorem History.in_range_first (call : Call) (wall : Int) :
    InRange [] call wall ↔
      call.now + call.ttl < MemoryStore.timerEnd ∧
        Dated wall (MemoryStore.roundedSeconds call.ttl) := by
  have opens : windowFor [] call = .opened call := rfl
  have left : (Window.opened call).stop - call.now = call.ttl := Nat.add_sub_cancel_left ..
  unfold InRange
  rw [opens, left]
  exact and_congr_left' decide_eq_true_iff

/-- At any store a stage settles a request exactly if it can handle the reply that it gets and has the
time to wait for it; a reply in time that it cannot handle breaks it down. In a run of requests that are
counted in one process, from the empty store on, this comes to the windows of the run: a stage settles
a request exactly if its window ends on the timer and what is left of it has a date, and breaks down
in every other case. -/
theorem stage_settles_in_range (timeout : Nanos) :
    (∀ (σ : Type) [CounterStore σ] (stage : Stage) (request : Request) (world : World σ),
      let visit := stage.visit request world.store world.clock
      (stage.Settles timeout request world ↔
        visit.Manageable timeout ∧ world.HasTime (visit.wait timeout)) ∧
      (stage.Breaks timeout request world ↔
        world.HasTime (visit.wait timeout) ∧ ¬ visit.Manageable timeout)) ∧
    ∀ (earlier : List Arrival) (arrival : Arrival),
      Arrival.Linked timeout .empty (earlier ++ [arrival]) →
      ((earlier ++ [arrival]).Pairwise fun first second =>
        first.world.clock.timer ≤ second.world.clock.timer) →
      let inRange := ∀ call ∈ arrival.call?,
        (History.ofCalls (earlier.filterMap Arrival.call?)).InRange call arrival.world.clock.wall
      (arrival.stage.Settles timeout arrival.request arrival.world ↔ inRange) ∧
        (arrival.stage.Breaks timeout arrival.request arrival.world ↔ ¬ inRange) := by
  constructor
  · intro σ _ stage request world
    exact ⟨Stage.settles_iff, Stage.breaks_iff⟩
  · intro earlier arrival linked ordered
    exact Arrival.settles_in_run timeout earlier arrival linked ordered

/-- Two requests within a minute: the second is counted in the window of the first. -/
theorem stage_settles_in_range_second :
    let stage : Stage := ⟨.client, .ofSeconds 5 60, true⟩
    let first : Arrival :=
      ⟨stage, Service.statusRequest, World.start 1_700_000_000_000_000_000 .empty⟩
    let second : Arrival := ⟨stage, Service.statusRequest,
      { World.start 1_700_000_000_000_000_000 (first.leaves 500_000_000) with
        clock := .running 1_700_000_059_999_999_999 59_999_999_999 }⟩
    Arrival.Linked 500_000_000 .empty [first, second] ∧
      ([first, second].Pairwise fun one other =>
        one.world.clock.timer ≤ other.world.clock.timer) ∧
      stage.Settles 500_000_000 Service.statusRequest second.world := by
  intro stage first second
  have linked : Arrival.Linked 500_000_000 .empty ([first] ++ [second]) := ⟨rfl, rfl, trivial⟩
  have ordered : ([first] ++ [second]).Pairwise fun one other =>
      one.world.clock.timer ≤ other.world.clock.timer := by
    simp [first, second, World.start]
  refine ⟨linked, ordered, ?_⟩
  apply ((stage_settles_in_range 500_000_000).2 [first] second linked ordered).1.mpr
  decide +kernel

end RateLimit

namespace Service

open RateLimit

theorem build_server {σ : Type} [Dependencies σ] {server : ServerConfig} {tokens : TokenConfig}
    {service : Service σ} (built : build server tokens = .ok service) :
    service.server = server := by
  obtain ⟨table, routed, rest⟩ := bind_ok_iff.mp built
  obtain ⟨rules, ruled, rest⟩ := bind_ok_iff.mp rest
  obtain ⟨_, checked, same⟩ := bind_ok_iff.mp rest
  cases same
  rfl

/-- Where the outermost limiter breaks down, the service answers for it. -/
theorem broken_limiter_status {σ : Type} [CounterStore σ] {service : Service σ} {freshId : Bytes}
    {request : Request} {world : World σ} {stage : Stage} {others : List Stage}
    (installed : limiters service.server = stage :: others)
    (breaks : stage.Breaks service.server.limits.timeout
      (service.arriving freshId request) (service.entered request world)) :
    (service.handle freshId request).status world = .ok 500 := by
  obtain ⟨payload, after, ends⟩ := breaks
  have outermost : service.limiting (service.behind request) =
      stage.layer service.server.limits.timeout
        (stack service.server.limits.timeout others (service.behind request)) := by
    unfold limiting
    rw [installed]
    rfl
  rw [handle_status, outermost]
  unfold Run.status
  rw [ends]
  rfl

/-- Requests counted by their address, in windows of 285,388 years. -/
def farWindow : ServerConfig :=
  { ServerConfig.standard with
    limits := ⟨.memory, 500, [("ip", ⟨some true, some 5, some 9000000000000⟩)]⟩ }

/-- The first request of a client in such a window leads to times that are out of range: what is left of
the window has no date. -/
private theorem far_window_out_of_range {arrival : Arrival} {address : String}
    (stage : arrival.stage = ⟨.client, .ofSeconds 5 9000000000000, true⟩)
    (known : arrival.request.clientAddress = some address)
    (wall : arrival.world.clock.wall = 1_700_000_000_000_000_000) :
    ¬ ∀ call ∈ arrival.call?, (History.ofCalls []).InRange call arrival.world.clock.wall := by
  intro inRange
  have derived : Key.derive arrival.stage.scope arrival.request = .ok (.client address) := by
    unfold Key.derive
    rw [stage, known]
  have dated := ((History.in_range_first _ _).mp (inRange _ (Arrival.call_keyed derived))).2
  rw [stage, wall] at dated
  have undated : ¬ Dated 1_700_000_000_000_000_000 (MemoryStore.roundedSeconds
      (max 1 (9000000000000 * 1_000_000_000 / 1_000_000_000) * 1_000_000_000)) := by
    decide
  exact undated dated

/-- The end of such a window has no date, so the first request of a client is neither denied nor passed
on, and the service answers for the breakdown. -/
theorem far_window_breaks :
    let world : World MemoryStore := World.start 1_700_000_000_000_000_000 .empty
    ∃ service : Service MemoryStore, build farWindow .standard = .ok service ∧
      ∃ stage, limiters farWindow = [stage] ∧
        ¬ stage.Settles 500_000_000 (service.arriving [] statusRequest)
          (service.entered statusRequest world) ∧
        (service.handle [] statusRequest).status world = .ok 500 := by
  intro world
  obtain ⟨service, built, _⟩ : ∃ service : Service MemoryStore,
      build farWindow .standard = .ok service ∧ True :=
    built_with farWindow .standard (fun _ => True) (by decide +kernel) fun _ _ => trivial
  have server := build_server built
  have installed : limiters farWindow = [⟨.client, .ofSeconds 5 9000000000000, true⟩] := by
    decide
  let arrival : Arrival := ⟨⟨.client, .ofSeconds 5 9000000000000, true⟩,
    service.arriving [] statusRequest, service.entered statusRequest world⟩
  have counted : arrival.request.clientAddress.isSome := rfl
  obtain ⟨address, known⟩ := Option.isSome_iff_exists.mp counted
  have wall : arrival.world.clock.wall = 1_700_000_000_000_000_000 := by
    have clock : arrival.world.clock = world.clock := entered_clock service statusRequest world
    rw [clock]
    exact Clock.wall_running ..
  have outOfRange := far_window_out_of_range rfl known wall
  obtain ⟨settles, breaks⟩ := Arrival.settles_in_run 500_000_000 [] arrival
    ⟨entered_store service statusRequest world, trivial⟩ (List.pairwise_singleton _ _)
  refine ⟨service, built, _, installed, ?_, ?_⟩
  · intro settled
    exact outOfRange (settles.mp settled)
  · rw [← server] at installed
    refine broken_limiter_status installed ?_
    rw [server]
    exact breaks.mpr outOfRange

end Service
end Gatehouse
