import Gatehouse.Proofs.RateLimit.Settling
import Gatehouse.Proofs.RateLimit.StoreWindows

/-! Stages that count in the store of their own process. Such a store answers at once, and what it
answers follows from the windows of the calls made so far. So a stage breaks down exactly where its
own window leaves the range of a clock: it would not end on the timer, or it ends when the calendar is
over. -/
namespace Gatehouse.RateLimit

/-! ## Windows that have been opened -/

namespace History

/-- The windows once a call has been made. A window that would not end on the timer is not opened. -/
def recorded (history : History) (call : Call) : History :=
  if (history.windowFor call).endsOnTimer then history.windowFor call :: history else history

/-- The windows that a run of calls has opened, one entry for each call. -/
def ofCalls (calls : List Call) : History := calls.foldl recorded []

/-- The times that a call leads to are in range: its window ends on the timer, and what is left of it
in seconds has a date. -/
def InRange (history : History) (call : Call) (wall : Int) : Prop :=
  (history.windowFor call).endsOnTimer ∧
    Dated wall (MemoryStore.roundedSeconds ((history.windowFor call).stop - call.now))

instance (history : History) (call : Call) (wall : Int) : Decidable (history.InRange call wall) :=
  inferInstanceAs (Decidable (_ ∧ _))

end History

namespace MemoryStore

/-- A store is what a history says, and every window of the history ends on the timer. -/
structure Tracks (store : MemoryStore) (history : History) (now : Nanos) : Prop where
  separate : history.Separate now
  mirrors : store.Mirrors history now
  ended : ∀ window ∈ history, window.endsOnTimer

namespace Tracks

variable {store : MemoryStore} {history : History} {now : Nanos} {call : Call}

theorem empty (now : Nanos) : Tracks .empty [] now :=
  ⟨History.separate_empty, mirrors_empty now, fun _ member => absurd member List.not_mem_nil⟩

theorem later {later : Nanos} (tracks : Tracks store history now) (earlier : now ≤ later) :
    Tracks store history later :=
  ⟨History.separate_later tracks.separate earlier,
    mirrors_later tracks.separate tracks.mirrors earlier, tracks.ended⟩

/-- A window that is open has been opened, so it ends on the timer. -/
private theorem opened_or_fits (tracks : Tracks store history call.now) :
    ((history.openWindow? call.key call.now).isSome ||
      (history.windowFor call).endsOnTimer) = (history.windowFor call).endsOnTimer := by
  unfold History.windowFor
  cases found : history.openWindow? call.key call.now with
  | none => rfl
  | some window =>
    have ended := tracks.ended window (History.open_window_found found).1
    simp [ended]

/-- One call: it is told what its window says and recorded, unless the window would not end on the
timer. -/
theorem increment (tracks : Tracks store history call.now) (positive : 0 < call.ttl) :
    (store.increment call.now call.key call.ttl).2 =
        (if (history.windowFor call).endsOnTimer then
          .ok (history.snapshot (history.windowFor call) call.now) else .error .timer) ∧
      Tracks (store.increment call.now call.key call.ttl).1 (history.recorded call) call.now := by
  unfold History.recorded
  by_cases ends : (history.windowFor call).endsOnTimer = true
  · have counted := tracks.opened_or_fits.trans ends
    obtain ⟨after, told, still⟩ := increment_counts positive tracks.mirrors counted
    rw [told, if_pos ends, if_pos ends]
    exact ⟨rfl, History.separate_counted tracks.separate, still,
      List.forall_mem_cons.mpr ⟨ends, tracks.ended⟩⟩
  · have refused : ¬ ((history.openWindow? call.key call.now).isSome ||
        (history.windowFor call).endsOnTimer) = true := by
      rw [tracks.opened_or_fits]
      exact ends
    obtain ⟨after, told, still⟩ := increment_overflows positive tracks.mirrors refused
    rw [told, if_neg ends, if_neg ends]
    exact ⟨rfl, tracks.separate, still, tracks.ended⟩

end Tracks
end MemoryStore

/-- The reply that a count comes to. -/
def Reply.ofCount (counted : Except Overflow Snapshot) : Reply :=
  match counted with
  | .ok told => .snapshot told
  | .error overflow => .broken (some overflow.message)

/-- How the store of a process replies: at once, and where the window of a call would not end on the
timer, by breaking down. -/
theorem attempted (store : MemoryStore) (now : Nanos) (key : String) (seconds : Nat) :
    CounterStore.increment store now key seconds =
      ⟨(store.increment now key (seconds * 1_000_000_000)).1,
        .ofCount (store.increment now key (seconds * 1_000_000_000)).2, some 0⟩ := by
  simp only [CounterStore.increment]
  rcases store.increment now key (seconds * 1_000_000_000) with ⟨after, told⟩
  cases told with
  | ok snapshot => rfl
  | error overflow => rfl

namespace Stage

variable (timeout : Nanos) (stage : Stage) (key : Key) (world : World MemoryStore)

/-- Nobody waits for the store of a process. -/
theorem patience_in_process : (stage.inquiry key world).patience timeout = 0 := by
  unfold inquiry Inquiry.patience
  rw [attempted]
  exact Nat.zero_min timeout

/-- What the store of a process answers is in time. -/
theorem verdict_in_process :
    (stage.inquiry key world).verdict timeout =
      (stage.inquiry key world).answer world.clock.wall := by
  have wall : (stage.inquiry key world).wall timeout = world.clock.wall := by
    unfold Inquiry.wall
    rw [patience_in_process]
    rfl
  unfold Inquiry.verdict
  rw [wall]
  unfold inquiry
  rw [attempted]
  exact if_pos (decide_eq_true (Nat.zero_le timeout))

end Stage

/-! ## One stage -/

/-- Behind a stage there is the store that its inquiry has left, however the stage ends. -/
theorem Stage.passage_store {σ : Type} [CounterStore σ] (timeout : Nanos) (stage : Stage)
    (request : Request) (world : World σ) :
    (stage.passage timeout request world).world.store =
      (stage.visit request world.store world.clock).leaves world.store := by
  unfold Stage.passage Stage.visit
  cases Key.derive stage.scope request with
  | error error => exact (stage.noted_keeps _ _).1
  | ok key =>
    simp only []
    split
    · cases (stage.inquiry key world).verdict timeout with
      | undecided error => exact (stage.noted_keeps _ _).1
      | broken payload => rfl
      | decided decision =>
        unfold Stage.conclude
        simp only []
        split
        · exact (stage.noted_keeps _ _).1
        · exact (stage.noted_keeps _ _).1
    · rfl

/-- One request that comes to one stage, and the world that it finds there. A request that passes
several stages comes to each of them. -/
structure Arrival where
  stage : Stage
  request : Request
  world : World MemoryStore

namespace Arrival

/-- The call that the stage makes, where the request has a counter: its window lasts the whole
seconds of the policy, at least one. -/
def call? (arrival : Arrival) : Option Call :=
  (Key.derive arrival.stage.scope arrival.request).toOption.map fun key =>
    ⟨arrival.world.clock.timer, key.text,
      max 1 (arrival.stage.policy.window / 1_000_000_000) * 1_000_000_000⟩

/-- The store that the stage leaves to what comes next. -/
def leaves (timeout : Nanos) (arrival : Arrival) : MemoryStore :=
  ((arrival.stage.layer timeout (fun _ => return .ofStatus 200) arrival.request).perform
    arrival.world).2.store

/-- Arrivals one after another, each of which finds the store that the one before it has left. -/
def Linked (timeout : Nanos) : MemoryStore → List Arrival → Prop
  | _, [] => True
  | store, arrival :: rest =>
    arrival.world.store = store ∧ Linked timeout (arrival.leaves timeout) rest

variable {timeout : Nanos} {arrival : Arrival} {history : History}

theorem call_keyless {error : LimitError}
    (derived : Key.derive arrival.stage.scope arrival.request = .error error) :
    arrival.call? = none := by
  unfold call?
  rw [derived]
  rfl

theorem call_keyed {key : Key}
    (derived : Key.derive arrival.stage.scope arrival.request = .ok key) :
    arrival.call? = some ⟨arrival.world.clock.timer, key.text,
      max 1 (arrival.stage.policy.window / 1_000_000_000) * 1_000_000_000⟩ := by
  unfold call?
  rw [derived]
  rfl

/-- What a stage leaves behind is what its call makes of the store. -/
theorem leaves_eq (timeout : Nanos) (arrival : Arrival) :
    arrival.leaves timeout = (arrival.call?.map fun call =>
      (arrival.world.store.increment call.now call.key call.ttl).1).getD arrival.world.store := by
  have stands_in (passage : Passage MemoryStore) :
      (passage.resume ((fun _ => return .ofStatus 200 : Handler MemoryStore)
        arrival.request).perform).2 = passage.world := by
    cases passage with
    | passed mark after => rfl
    | denied answer after => rfl
    | ended interrupt after => rfl
  unfold leaves
  rw [Stage.layer_passage, stands_in, Stage.passage_store]
  cases derived : Key.derive arrival.stage.scope arrival.request with
  | error error =>
    rw [Stage.visit_keyless derived, call_keyless derived]
    rfl
  | ok key =>
    rw [Stage.visit_keyed derived, call_keyed derived]
    have own := attempted arrival.world.store arrival.world.clock.timer key.text
      (max 1 (arrival.stage.policy.window / 1_000_000_000))
    exact congrArg Attempt.store own

private theorem call_positive {call : Call} (made : arrival.call? = some call) :
    0 < call.ttl ∧ call.now = arrival.world.clock.timer := by
  unfold call? at made
  obtain ⟨key, _, rfl⟩ := Option.map_eq_some_iff.mp made
  refine ⟨?_, rfl⟩
  exact Nat.mul_pos (Nat.lt_of_lt_of_le Nat.one_pos (Nat.le_max_left ..)) (by decide)

/-- One arrival: the store goes on being what the windows say. -/
theorem leaves_tracks
    (tracks : arrival.world.store.Tracks history arrival.world.clock.timer) :
    (arrival.leaves timeout).Tracks (arrival.call?.toList.foldl History.recorded history)
      arrival.world.clock.timer := by
  rw [leaves_eq]
  cases made : arrival.call? with
  | none => exact tracks
  | some call =>
    obtain ⟨positive, now⟩ := call_positive made
    rw [← now] at tracks ⊢
    exact (tracks.increment positive).2

/-- The store at the end of a run of arrivals is what the windows of the run say. -/
theorem linked_tracks {store : MemoryStore} {now : Nanos} (earlier : List Arrival)
    (tracks : store.Tracks history now) (linked : Linked timeout store (earlier ++ [arrival]))
    (later : ∀ other ∈ earlier ++ [arrival], now ≤ other.world.clock.timer)
    (ordered : (earlier ++ [arrival]).Pairwise fun first second =>
      first.world.clock.timer ≤ second.world.clock.timer) :
    arrival.world.store.Tracks ((earlier.filterMap call?).foldl History.recorded history)
      arrival.world.clock.timer := by
  -- the windows grow with each arrival; they are those at the time of the arrival, so they are first
  -- brought forward to it
  induction earlier generalizing store history now with
  | nil =>
    rw [linked.1]
    exact tracks.later (later arrival (List.mem_singleton_self arrival))
  | cons first rest ih =>
    rw [List.cons_append] at linked later ordered
    obtain ⟨found, linked⟩ := linked
    obtain ⟨behind, ordered⟩ := List.pairwise_cons.mp ordered
    have own := tracks.later (later first List.mem_cons_self)
    rw [← found] at own
    have next := ih (leaves_tracks own) linked behind ordered
    rw [← List.foldl_append] at next
    have calls : (first :: rest).filterMap call? =
        first.call?.toList ++ rest.filterMap call? := by
      rw [List.filterMap_cons]
      cases first.call? with
      | none => rfl
      | some call => rfl
    rw [calls]
    exact next

/-- A reply that comes at once is the one that the stage has to handle. -/
private theorem manageable_at_once {stage : Stage} {key : Key} {clock : Clock} {after : MemoryStore}
    {reply : Reply} :
    Visit.Manageable timeout ⟨stage, some ⟨stage, key, clock, after, reply, some 0⟩⟩ ↔
      reply.Manageable clock.wall := by
  have wall : Inquiry.wall timeout ⟨stage, key, clock, after, reply, some 0⟩ = clock.wall := by
    unfold Inquiry.wall Inquiry.patience
    rw [Option.getD_some, Nat.zero_min, Clock.later_zero]
  rw [← wall]
  constructor
  · intro manageable
    exact manageable _ rfl reply rfl
  · intro handled inquiry member other got
    cases member
    cases got
    exact handled

/-- A call whose window does not end on the timer has no reply to be handled, and any other the reset
time of a snapshot that is true. -/
private theorem reply_in_range {call : Call} {wall : Int} (positive : 0 < call.ttl) :
    (Reply.ofCount (if (history.windowFor call).endsOnTimer then
        .ok (history.snapshot (history.windowFor call) call.now)
      else .error .timer)).Manageable wall ↔
      history.InRange call wall := by
  unfold History.InRange
  by_cases ends : (history.windowFor call).endsOnTimer = true
  · have isOpen := (History.window_for_open history positive).2
    have left : (history.snapshot (history.windowFor call) call.now).secondsLeft =
        MemoryStore.roundedSeconds ((history.windowFor call).stop - call.now) :=
      (MemoryStore.rounded_seconds _ _ (Nat.le_of_lt (Window.isOpen_iff.mp isOpen))).symm
    have wellFormed : (history.snapshot (history.windowFor call) call.now).WellFormed := by
      refine ⟨?_, ?_⟩
      · exact Int.le_add_of_nonneg_right (Int.natCast_nonneg _)
      · rw [left]
        exact Int.natCast_nonneg _
    simp only [ends, if_true, true_and, Reply.ofCount, Reply.Manageable, left]
    exact ⟨fun dated => dated wellFormed, fun dated _ => dated⟩
  · rw [if_neg ends]
    exact ⟨fun handled => absurd handled id, fun ranged => absurd ranged.1 ends⟩

/-- A stage can handle what the store of its process answers exactly if the times are in range, and it
need not wait for it. -/
private theorem visit_in_range (timeout : Nanos)
    (tracks : arrival.world.store.Tracks history arrival.world.clock.timer) :
    let visit := arrival.stage.visit arrival.request arrival.world.store arrival.world.clock
    visit.wait timeout = 0 ∧
      (visit.Manageable timeout ↔
        ∀ call ∈ arrival.call?, history.InRange call arrival.world.clock.wall) := by
  unfold Stage.visit
  cases derived : Key.derive arrival.stage.scope arrival.request with
  | error error =>
    rw [call_keyless derived]
    refine ⟨rfl, ?_, ?_⟩
    · intro _ call member
      cases member
    · intro _ inquiry member
      cases member
  | ok key =>
    have made := call_keyed derived
    obtain ⟨positive, _⟩ := call_positive made
    have told := (tracks.increment positive).1
    simp only [Except.toOption, Option.map_some, attempted, made, Option.mem_def,
      Option.some.injEq, forall_eq']
    refine ⟨Nat.zero_min timeout, ?_⟩
    rw [told, manageable_at_once]
    exact reply_in_range positive

/-- In a run of arrivals from the empty store on, a stage settles a request exactly if the times that
its call leads to are in range, and otherwise it breaks down. -/
theorem settles_in_run (timeout : Nanos) (earlier : List Arrival) (arrival : Arrival)
    (linked : Linked timeout .empty (earlier ++ [arrival]))
    (ordered : (earlier ++ [arrival]).Pairwise fun first second =>
      first.world.clock.timer ≤ second.world.clock.timer) :
    let inRange := ∀ call ∈ arrival.call?,
      (History.ofCalls (earlier.filterMap call?)).InRange call arrival.world.clock.wall
    (arrival.stage.Settles timeout arrival.request arrival.world ↔ inRange) ∧
      (arrival.stage.Breaks timeout arrival.request arrival.world ↔ ¬ inRange) := by
  have tracks := linked_tracks earlier (MemoryStore.Tracks.empty 0) linked
    (fun other _ => Nat.zero_le _) ordered
  obtain ⟨at_once, manageable⟩ := visit_in_range timeout tracks
  have timely : arrival.world.HasTime ((arrival.stage.visit arrival.request arrival.world.store
      arrival.world.clock).wait timeout) := by
    rw [at_once]
    exact World.has_time_zero arrival.world
  constructor
  · rw [Stage.settles_iff, manageable]
    exact and_iff_left timely
  · rw [Stage.breaks_iff, manageable]
    exact and_iff_right timely

end Arrival
end Gatehouse.RateLimit
