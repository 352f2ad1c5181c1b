import Gatehouse.Proofs.RateLimit.Checks
import Gatehouse.Proofs.RateLimit.Decisions

/-! Checks of one limit that are under way at the same time. Each of them reads the timer, is counted in
the store of the process at some later point, and is decided after that; in between anyone may come
first. The store counts one call at a time, and that is all the order there is: a check may be counted
with a reading that is older than the window it is counted in, or than a sweep. As long as the window that
the first of them opens lasts for every reading, they are told their places in it, each place once. -/
namespace Gatehouse.RateLimit

/-! ## Moves -/

/-- Checks of one counter, one a caller. They have one limit; the windows may differ. -/
structure Crowd (n : Nat) where
  key : Key
  limit : Nat
  windows : Fin n → Nanos

/-- How long the window lasts that a caller opens if none is open. -/
def Crowd.ttl {n : Nat} (crowd : Crowd n) (caller : Fin n) : Nanos :=
  wholeSeconds (crowd.windows caller) * 1_000_000_000

/-- How far a check has come: it has not begun, it has read the timer, it has been counted with that
reading, or it has been concluded at a reading of the wall clock. -/
inductive Progress where
  | waiting
  | ready (timer : Nanos)
  | counted (timer : Nanos) (told : Except Overflow Snapshot)
  | finished (timer : Nanos) (told : Except Overflow Snapshot) (wall : Int)

namespace Progress

/-- The reading a check was counted with, and what it was told. -/
def record? : Progress → Option (Nanos × Except Overflow Snapshot)
  | counted timer told | finished timer told _ => some (timer, told)
  | waiting | ready _ => none

/-- What a check comes to. -/
def outcome? (limit : Nat) : Progress → Option (Except Interrupt (Except LimitError Decision))
  | finished _ told wall => some (concluded limit wall told)
  | _ => none

end Progress

/-- The store that all share, and how far each check has come. -/
structure Hall (n : Nat) where
  store : MemoryStore
  progress : Fin n → Progress

/-- What happens in the hall: a caller reads the timer, is counted with that reading, or reads the wall
clock and decides; or a call on some other key is counted, with a reading it has made before. -/
inductive Move (n : Nat) where
  | read (caller : Fin n) (timer : Nanos)
  | enter (caller : Fin n) (timer : Nanos)
  | conclude (caller : Fin n) (wall : Int)
  | other (call : Call)

variable {n : Nat}

/-- The reading of the timer that a caller makes. -/
def Move.ownReading? : Move n → Option Nanos
  | read _ timer => some timer
  | enter _ _ | conclude _ _ | other _ => none

/-- The reading of the timer that a move brings, of a caller or for another key. -/
def Move.reading? : Move n → Option Nanos
  | read _ timer => some timer
  | other call => some call.now
  | enter _ _ | conclude _ _ => none

/-- The end of the window that a move opens if no window of the key is open. -/
def Move.windowEnd? (crowd : Crowd n) : Move n → Option Nanos
  | enter caller timer => some (timer + crowd.ttl caller)
  | read _ _ | conclude _ _ | other _ => none

/-- Nothing is asked of the readings: a caller that reads the timer first may be counted last. -/
inductive Leads (crowd : Crowd n) : Hall n → Move n → Hall n → Prop
  | read {hall : Hall n} {caller : Fin n} (timer : Nanos)
      (waits : hall.progress caller = .waiting) :
      Leads crowd hall (.read caller timer)
        { hall with progress := Function.update hall.progress caller (.ready timer) }
  | enter {hall : Hall n} {caller : Fin n} {timer : Nanos}
      (ready : hall.progress caller = .ready timer) :
      Leads crowd hall (.enter caller timer)
        ⟨(hall.store.increment timer crowd.key.text (crowd.ttl caller)).1,
          Function.update hall.progress caller (.counted timer
            (hall.store.increment timer crowd.key.text (crowd.ttl caller)).2)⟩
  | conclude {hall : Hall n} {caller : Fin n} {timer : Nanos} {told : Except Overflow Snapshot}
      (wall : Int) (counted : hall.progress caller = .counted timer told) :
      Leads crowd hall (.conclude caller wall)
        { hall with progress := Function.update hall.progress caller (.finished timer told wall) }
  | other {hall : Hall n} (call : Call) (elsewhere : crowd.key.text ≠ call.key) :
      Leads crowd hall (.other call)
        { hall with store := (hall.store.increment call.now call.key call.ttl).1 }

/-- Moves one after another. -/
inductive Interleaving (crowd : Crowd n) : Hall n → List (Move n) → Hall n → Prop
  | done (hall : Hall n) : Interleaving crowd hall [] hall
  | move {hall next final : Hall n} {move : Move n} {moves : List (Move n)}
      (first : Leads crowd hall move next) (rest : Interleaving crowd next moves final) :
      Interleaving crowd hall (move :: moves) final

/-- The readings of the timer that the callers make. -/
def ownReadings (moves : List (Move n)) : List Nanos := moves.filterMap Move.ownReading?

/-- All readings of the timer that are made. -/
def readings (moves : List (Move n)) : List Nanos := moves.filterMap Move.reading?

/-- The end of the window of the key that the first caller to be counted opens. -/
def windowEnd? (crowd : Crowd n) (moves : List (Move n)) : Option Nanos :=
  moves.findSome? (Move.windowEnd? crowd)

/-! ## Before anyone is counted -/

namespace Hall

/-- Callers have been counted in one window, in the order of a list, and told their places in it. -/
structure Listed (times : List Nanos) (stop : Nanos) (entered : List (Fin n)) (hall : Hall n) :
    Prop where
  distinct : entered.Nodup
  inside : ∀ caller, caller ∈ entered ↔ (hall.progress caller).record?.isSome
  ready : ∀ caller timer, hall.progress caller = .ready timer → timer ∈ times
  told : ∀ place caller timer told, entered[place]? = some caller →
    (hall.progress caller).record? = some (timer, told) →
    told = .ok ⟨(place + 1 : Nat), MemoryStore.roundedSeconds (stop - timer)⟩

/-- Nobody has been counted yet, and the key has no bucket that is live at any of some readings. -/
structure Unopened (crowd : Crowd n) (times : List Nanos) (hall : Hall n) : Prop where
  nobody : ∀ caller, (hall.progress caller).record? = none
  ready : ∀ caller timer, hall.progress caller = .ready timer → timer ∈ times
  unused : ∀ timer ∈ times, hall.store.live? crowd.key.text timer = none

/-- The window of those who have been counted is the bucket of the key. -/
structure Opened (crowd : Crowd n) (times : List Nanos) (stop : Nanos) (entered : List (Fin n))
    (hall : Hall n) : Prop extends Listed times stop entered hall where
  bucket : hall.store.buckets.get? crowd.key.text = some ⟨entered.length, stop⟩

end Hall

variable {crowd : Crowd n} {hall next final : Hall n} {move : Move n} {moves : List (Move n)}
  {times : List Nanos}

private theorem brought_cons {reading? : Move n → Option Nanos} {noted : Nanos → Prop}
    (all : ∀ timer ∈ (move :: moves).filterMap reading?, noted timer) :
    (∀ timer ∈ reading? move, noted timer) ∧ ∀ timer ∈ moves.filterMap reading?, noted timer := by
  constructor
  · intro timer brought
    exact all timer (List.mem_filterMap.mpr ⟨move, List.mem_cons_self, brought⟩)
  · intro timer later
    obtain ⟨other, member, brought⟩ := List.mem_filterMap.mp later
    exact all timer (List.mem_filterMap.mpr ⟨other, List.mem_cons_of_mem move member, brought⟩)

theorem own_readings_made : ∀ timer ∈ ownReadings moves, timer ∈ readings moves := by
  intro timer own
  obtain ⟨move, member, brought⟩ := List.mem_filterMap.mp own
  refine List.mem_filterMap.mpr ⟨move, member, ?_⟩
  cases move with
  | read _ _ => exact brought
  | enter _ _ => cases brought
  | conclude _ _ => cases brought
  | other _ => cases brought

private theorem entry_update {progress : Fin n → Progress} {actor : Fin n} {further : Progress}
    (same : further.record? = (progress actor).record?) (caller : Fin n) :
    (Function.update progress actor further caller).record? = (progress caller).record? := by
  by_cases own : caller = actor
  · rw [own, Function.update_self, same]
  · rw [Function.update_of_ne own]

/-- Whoever is ready after a move has a reading that was known or that the move has brought. -/
theorem Leads.ready (step : Leads crowd hall move next)
    (noted : ∀ timer ∈ move.ownReading?, timer ∈ times)
    (ready : ∀ caller timer, hall.progress caller = .ready timer → timer ∈ times) :
    ∀ caller timer, next.progress caller = .ready timer → timer ∈ times := by
  intro caller timer held
  have update {actor : Fin n} {further : Progress}
      (found : Function.update hall.progress actor further caller = .ready timer)
      (brought : further = .ready timer → timer ∈ times) : timer ∈ times := by
    by_cases own : caller = actor
    · rw [own, Function.update_self] at found
      exact brought found
    · rw [Function.update_of_ne own] at found
      exact ready caller timer found
  cases step with
  | read reading waits =>
    refine update held fun brought => ?_
    cases brought
    exact noted timer rfl
  | enter _ => exact update held fun brought => by cases brought
  | conclude wall _ => exact update held fun brought => by cases brought
  | other call _ => exact ready caller timer held

/-- All that being counted does: the caller was ready, the store counts it, and what it is told becomes
its entry. -/
theorem Leads.enters {caller : Fin n} {timer : Nanos}
    (step : Leads crowd hall (.enter caller timer) next) :
    let counted := hall.store.increment timer crowd.key.text (crowd.ttl caller)
    hall.progress caller = .ready timer ∧ next.store = counted.1 ∧
      (next.progress caller).record? = some (timer, counted.2) ∧
      ∀ other, other ≠ caller → next.progress other = hall.progress other := by
  intro counted
  cases step with
  | enter ready =>
    refine ⟨ready, rfl, ?_, fun other different => Function.update_of_ne different _ _⟩
    simp only [Function.update_self]
    rfl

/-- Only being counted makes an entry. -/
theorem Leads.entry_same (step : Leads crowd hall move next)
    (nobody : move.windowEnd? crowd = none) (caller : Fin n) :
    (next.progress caller).record? = (hall.progress caller).record? := by
  cases step with
  | read timer waits => exact entry_update (by rw [waits]; rfl) caller
  | enter _ => cases nobody
  | conclude wall counted => exact entry_update (by rw [counted]; rfl) caller
  | other call _ => rfl

/-- An entry is never changed. -/
theorem Leads.entry_kept (step : Leads crowd hall move next) {caller : Fin n}
    {entry : Nanos × Except Overflow Snapshot}
    (counted : (hall.progress caller).record? = some entry) :
    (next.progress caller).record? = some entry := by
  by_cases nobody : move.windowEnd? crowd = none
  · exact (step.entry_same nobody caller).trans counted
  · cases step with
    | @enter actor timer ready =>
      obtain ⟨_, _, _, others⟩ := Leads.enters (Leads.enter ready)
      rw [others caller]
      · exact counted
      · rintro rfl
        rw [ready] at counted
        cases counted
    | read _ _ => exact absurd rfl nobody
    | conclude _ _ => exact absurd rfl nobody
    | other _ _ => exact absurd rfl nobody

theorem Interleaving.entry_kept (run : Interleaving crowd hall moves final) {caller : Fin n}
    {entry : Nanos × Except Overflow Snapshot}
    (counted : (hall.progress caller).record? = some entry) :
    (final.progress caller).record? = some entry := by
  induction run with
  | done hall => exact counted
  | move first _ ih => exact ih (first.entry_kept counted)

namespace Hall

/-- As long as nobody is counted the key stays without a live bucket. -/
theorem Unopened.step (unopened : hall.Unopened crowd times) (step : Leads crowd hall move next)
    (noted : ∀ timer ∈ move.ownReading?, timer ∈ times) (nobody : move.windowEnd? crowd = none) :
    next.Unopened crowd times := by
  refine ⟨?_, step.ready noted unopened.ready, ?_⟩
  · intro caller
    rw [step.entry_same nobody]
    exact unopened.nobody caller
  · intro timer member
    cases step with
    | read _ _ => exact unopened.unused timer member
    | enter _ => cases nobody
    | conclude _ _ => exact unopened.unused timer member
    | other call elsewhere =>
      exact MemoryStore.dead_kept elsewhere (unopened.unused timer member)

theorem Unopened.listed (unopened : hall.Unopened crowd times) (stop : Nanos) :
    hall.Listed times stop [] := by
  refine ⟨List.nodup_nil, ?_, unopened.ready, ?_⟩
  · intro caller
    rw [unopened.nobody caller]
    exact ⟨fun member => absurd member List.not_mem_nil, fun counted => by cases counted⟩
  · intro place caller timer told found
    cases found

/-- A caller who joins the bucket of the others comes next in their list. -/
theorem Listed.enter {stop : Nanos} {entered : List (Fin n)} {caller : Fin n} {timer : Nanos}
    (listed : hall.Listed times stop entered) (step : Leads crowd hall (.enter caller timer) next)
    (joins : MemoryStore.joined (hall.store.live? crowd.key.text timer) timer (crowd.ttl caller) =
      .ok ⟨entered.length + 1, stop⟩) :
    next.Opened crowd times stop (entered ++ [caller]) := by
  obtain ⟨ready, store, own, others⟩ := step.enters
  rw [MemoryStore.increment_told, joins] at own
  have fresh : caller ∉ entered := by
    rw [listed.inside caller, ready]
    exact Bool.false_ne_true
  have distinct_from {other : Fin n} (member : other ∈ entered) : other ≠ caller := by
    rintro rfl
    exact fresh member
  refine ⟨⟨?_, ?_, step.ready (fun _ member => by cases member) listed.ready, ?_⟩, ?_⟩
  · refine List.nodup_append.mpr ⟨listed.distinct, List.pairwise_singleton _ caller, ?_⟩
    intro other member last same
    rw [List.mem_singleton.mp same]
    exact distinct_from member
  · intro other
    rw [List.mem_append, List.mem_singleton]
    by_cases same : other = caller
    · rw [same, own]
      exact iff_of_true (.inr rfl) rfl
    · rw [others other same, ← listed.inside other]
      exact or_iff_left same
  · intro place other moment told found entry
    rcases Nat.lt_or_ge place entered.length with before | behind
    · rw [List.getElem?_append_left before] at found
      rw [others other (distinct_from (List.mem_of_getElem? found))] at entry
      exact listed.told place other moment told found entry
    · rw [List.getElem?_append_right behind, List.getElem?_singleton] at found
      split at found
      · rename_i last
        have here : place = entered.length := by omega
        cases found
        rw [own] at entry
        cases entry
        rw [here]
        rfl
      · cases found
  · rw [store, List.length_append]
    exact MemoryStore.bucket_after_own joins

/-- The first to be counted opens a window, if that ends on the timer, and fails otherwise. -/
theorem Unopened.enter {caller : Fin n} {timer : Nanos} (unopened : hall.Unopened crowd times)
    (step : Leads crowd hall (.enter caller timer) next) :
    (timer + crowd.ttl caller < MemoryStore.timerEnd ∧
      next.Opened crowd times (timer + crowd.ttl caller) [caller]) ∨
    (MemoryStore.timerEnd ≤ timer + crowd.ttl caller ∧
      (next.progress caller).record? = some (timer, .error .timer)) := by
  obtain ⟨ready, store, own, others⟩ := step.enters
  have unused := unopened.unused timer (unopened.ready caller timer ready)
  have opens : MemoryStore.joined (hall.store.live? crowd.key.text timer) timer
      (crowd.ttl caller) = if MemoryStore.timerEnd ≤ timer + crowd.ttl caller then .error .timer
        else .ok ⟨1, timer + crowd.ttl caller⟩ := by
    rw [unused]
    rfl
  by_cases beyond : MemoryStore.timerEnd ≤ timer + crowd.ttl caller
  · right
    rw [if_pos beyond] at opens
    rw [MemoryStore.increment_told, opens] at own
    exact ⟨beyond, own⟩
  · left
    rw [if_neg beyond] at opens
    exact ⟨Nat.not_le.mp beyond, (unopened.listed _).enter step opens⟩

/-- Everyone who is counted while the window lasts is told the next place in it. -/
theorem Opened.step {stop : Nanos} {entered : List (Fin n)}
    (opened : hall.Opened crowd times stop entered) (inside : ∀ timer ∈ times, timer < stop)
    (step : Leads crowd hall move next) (noted : ∀ timer ∈ move.ownReading?, timer ∈ times)
    (soon : ∀ timer ∈ move.reading?, timer < stop) :
    ∃ more, next.Opened crowd times stop (entered ++ more) := by
  have same_list (nobody : move.windowEnd? crowd = none) :
      next.Listed times stop entered := by
    refine ⟨opened.distinct, ?_, step.ready noted opened.ready, ?_⟩
    · intro caller
      rw [step.entry_same nobody]
      exact opened.inside caller
    · intro place caller timer told found entry
      rw [step.entry_same nobody] at entry
      exact opened.told place caller timer told found entry
  cases step with
  | @enter caller timer ready =>
    have isLive : Bucket.isLive ⟨entered.length, stop⟩ timer :=
      decide_eq_true (inside timer (opened.ready caller timer ready))
    have live : hall.store.live? crowd.key.text timer = some ⟨entered.length, stop⟩ := by
      unfold MemoryStore.live?
      rw [opened.bucket, Option.filter_some, if_pos isLive]
    refine ⟨[caller], opened.enter (.enter ready) ?_⟩
    rw [live]
    rfl
  | read timer waits =>
    refine ⟨[], ?_⟩
    rw [List.append_nil]
    exact ⟨same_list rfl, opened.bucket⟩
  | conclude wall counted =>
    refine ⟨[], ?_⟩
    rw [List.append_nil]
    exact ⟨same_list rfl, opened.bucket⟩
  | other call elsewhere =>
    have isLive : Bucket.isLive ⟨entered.length, stop⟩ call.now :=
      decide_eq_true (soon call.now rfl)
    refine ⟨[], ?_⟩
    rw [List.append_nil]
    exact ⟨same_list rfl, MemoryStore.bucket_kept elsewhere opened.bucket isLive⟩

theorem Opened.run {stop : Nanos} {entered : List (Fin n)}
    (opened : hall.Opened crowd times stop entered) (inside : ∀ timer ∈ times, timer < stop)
    (run : Interleaving crowd hall moves final)
    (noted : ∀ timer ∈ ownReadings moves, timer ∈ times)
    (soon : ∀ timer ∈ readings moves, timer < stop) :
    ∃ more, final.Opened crowd times stop (entered ++ more) := by
  induction run generalizing entered with
  | done hall => exact ⟨[], by rwa [List.append_nil]⟩
  | @move hall next final move moves first rest ih =>
    obtain ⟨noted_now, noted_later⟩ := brought_cons noted
    obtain ⟨soon_now, soon_later⟩ := brought_cons soon
    obtain ⟨own, counted⟩ := opened.step inside first noted_now soon_now
    obtain ⟨more, last⟩ := ih counted noted_later soon_later
    exact ⟨own ++ more, by rwa [← List.append_assoc]⟩

/-- From a hall in which nobody has been counted: nobody is, or the first who is counted opens a window,
or fails and keeps the failure. -/
theorem Unopened.run (unopened : hall.Unopened crowd times)
    (run : Interleaving crowd hall moves final)
    (noted : ∀ timer ∈ ownReadings moves, timer ∈ times) :
    (windowEnd? crowd moves = none → final.Unopened crowd times) ∧
      ∀ stop ∈ windowEnd? crowd moves, (∀ timer ∈ times, timer < stop) →
        (∀ timer ∈ readings moves, timer < stop) →
        (stop < MemoryStore.timerEnd ∧ ∃ entered, final.Opened crowd times stop entered) ∨
          (MemoryStore.timerEnd ≤ stop ∧
            ∃ caller timer, (final.progress caller).record? = some (timer, .error .timer)) := by
  induction run with
  | done hall => exact ⟨fun _ => unopened, fun stop member => by cases member⟩
  | @move hall next final move moves first rest ih =>
    obtain ⟨noted_now, noted_later⟩ := brought_cons noted
    unfold windowEnd? at ih ⊢
    rw [List.findSome?_cons]
    cases opens : move.windowEnd? crowd with
    | none =>
      obtain ⟨stays, opened⟩ := ih (unopened.step first noted_now opens) noted_later
      refine ⟨stays, fun stop ends inside soon => ?_⟩
      exact opened stop ends inside (brought_cons soon).2
    | some stop =>
      refine ⟨(fun nobody => by cases nobody), fun other ends inside soon => ?_⟩
      cases ends
      cases move with
      | enter caller timer =>
        cases opens
        rcases unopened.enter first with ⟨ends, opened⟩ | ⟨beyond, failed⟩
        · obtain ⟨more, last⟩ := opened.run inside rest noted_later (brought_cons soon).2
          exact .inl ⟨ends, _, last⟩
        · exact .inr ⟨beyond, caller, timer, rest.entry_kept failed⟩
      | read caller timer => cases opens
      | conclude caller wall => cases opens
      | other call => cases opens

end Hall

/-! ## What the checks come to -/

namespace Progress

theorem finished_of_entry {limit : Nat} {progress : Progress} {timer : Nanos}
    {told : Except Overflow Snapshot} (complete : (progress.outcome? limit).isSome)
    (entry : progress.record? = some (timer, told)) : ∃ wall, progress = .finished timer told wall := by
  cases progress with
  | waiting => cases complete
  | ready _ => cases complete
  | counted _ _ => cases complete
  | finished moment said wall =>
    cases entry
    exact ⟨wall, rfl⟩

end Progress

/-- The decision of a check that is told its place, if its reset time has a date. -/
theorem concluded_place (limit place seconds : Nat) {wall : Int} (dated : Dated wall seconds) :
    ∃ decision, concluded limit wall (.ok ⟨(place + 1 : Nat), seconds⟩) = .ok (.ok decision) ∧
      decision.count = place + 1 ∧ decision.allowed = decide (place + 1 ≤ limit) := by
  have wellFormed : Snapshot.WellFormed ⟨(place + 1 : Nat), seconds⟩ :=
    ⟨Int.ofNat_le.mpr (Nat.le_add_left 1 place), Int.natCast_nonneg seconds⟩
  have decided := Decision.of_snapshot_decided limit wellFormed dated
  refine ⟨Snapshot.decision ⟨(place + 1 : Nat), seconds⟩ limit wall, by simp only [concluded, decided],
    rfl, ?_⟩
  exact decide_eq_decide.mpr Int.ofNat_le

theorem concluded_undated (limit place seconds : Nat) {wall : Int}
    (undated : ¬ Dated wall seconds) :
    ∃ payload, concluded limit wall (.ok ⟨(place + 1 : Nat), seconds⟩) =
      .error (.broken payload) := by
  have wellFormed : Snapshot.WellFormed ⟨(place + 1 : Nat), seconds⟩ :=
    ⟨Int.ofNat_le.mpr (Nat.le_add_left 1 place), Int.natCast_nonneg seconds⟩
  obtain ⟨overflow, overflows⟩ := Decision.of_snapshot_overflows limit wellFormed undated
  exact ⟨some overflow.message, by simp only [concluded, overflows]⟩

/-- Of the places in a list those up to a limit are as many as the limit says. -/
private theorem places_within (count limit : Nat) :
    (List.range' 1 count).countP (fun place => decide (place ≤ limit)) = min count limit := by
  induction count with
  | zero => exact (Nat.zero_min limit).symm
  | succ count ih =>
    rw [List.range'_1_concat, List.countP_append, ih, List.countP_singleton]
    by_cases within : 1 + count ≤ limit
    · simp only [within, decide_true, if_true]
      omega
    · simp only [within, decide_false, Bool.false_eq_true, if_false]
      omega

private theorem places_in_order {α : Type} [BEq α] [LawfulBEq α] {callers : List α}
    (distinct : callers.Nodup) :
    callers.map (fun caller => callers.idxOf caller + 1) = List.range' 1 callers.length := by
  refine List.ext_getElem (by simp) fun place inside _ => ?_
  rw [List.length_map] at inside
  rw [List.getElem_map, distinct.idxOf_getElem place inside, List.getElem_range']
  omega

namespace Hall

/-- Every check gets a decision. The counts are those from one on, each once, and as many checks are
allowed as the limit says. -/
def Exact (limit : Nat) (hall : Hall n) : Prop :=
  ∃ decisions : Fin n → Decision,
    (∀ caller, (hall.progress caller).outcome? limit = some (.ok (.ok (decisions caller)))) ∧
      ((List.finRange n).map fun caller => (decisions caller).count).Perm (List.range' 1 n) ∧
      (List.finRange n).countP (fun caller => (decisions caller).allowed) = min n limit

/-- For every check there is a date at which the window is over. -/
def Timely (stop : Nanos) (hall : Hall n) : Prop :=
  ∀ caller timer told wall, hall.progress caller = .finished timer told wall →
    Dated wall (MemoryStore.roundedSeconds (stop - timer))

/-- All checks have been concluded. -/
def Complete (limit : Nat) (hall : Hall n) : Prop :=
  ∀ caller, ((hall.progress caller).outcome? limit).isSome

variable {limit : Nat} {stop : Nanos} {entered : List (Fin n)}

/-- When all have been concluded, each caller stands in the list and has been told that place. -/
theorem Listed.place (listed : hall.Listed times stop entered) (complete : hall.Complete limit)
    (caller : Fin n) :
    caller ∈ entered ∧ ∃ timer wall, hall.progress caller =
      .finished timer (.ok ⟨(entered.idxOf caller + 1 : Nat), MemoryStore.roundedSeconds (stop - timer)⟩)
        wall := by
  have counted : (hall.progress caller).record?.isSome := by
    have concluded := complete caller
    cases progress : hall.progress caller with
    | finished timer told wall => rfl
    | waiting => rw [progress] at concluded; cases concluded
    | ready _ => rw [progress] at concluded; cases concluded
    | counted _ _ => rfl
  have member := (listed.inside caller).mpr counted
  obtain ⟨⟨timer, told⟩, entry⟩ := Option.isSome_iff_exists.mp counted
  obtain ⟨wall, finished⟩ := Progress.finished_of_entry (complete caller) entry
  have found : entered[entered.idxOf caller]? = some caller := by
    rw [List.getElem?_eq_getElem (List.idxOf_lt_length_of_mem member), List.getElem_idxOf]
  refine ⟨member, timer, wall, ?_⟩
  rw [finished, listed.told _ caller timer told found entry]

theorem Listed.everyone (listed : hall.Listed times stop entered) (complete : hall.Complete limit) :
    entered.Perm (List.finRange n) := by
  refine (List.perm_ext_iff_of_nodup listed.distinct (List.nodup_finRange n)).mpr fun caller => ?_
  exact iff_of_true (listed.place complete caller).1 (List.mem_finRange caller)

/-- Callers who have been told their places come to an exact result if and only if each of them can name
the date at which the window is over. -/
theorem Listed.exact_iff (listed : hall.Listed times stop entered)
    (complete : hall.Complete limit) : hall.Exact limit ↔ hall.Timely stop := by
  constructor
  · rintro ⟨decisions, decided, _, _⟩ caller timer told wall finished
    obtain ⟨_, moment, reading, placed⟩ := listed.place complete caller
    rw [finished] at placed
    cases placed
    by_contra undated
    obtain ⟨payload, broken⟩ := concluded_undated limit (entered.idxOf caller) _ undated
    have outcome := decided caller
    rw [finished] at outcome
    simp only [Progress.outcome?, broken] at outcome
    cases outcome
  · intro timely
    have decided (caller : Fin n) : ∃ decision,
        (hall.progress caller).outcome? limit = some (.ok (.ok decision)) ∧
          decision.count = entered.idxOf caller + 1 ∧
          decision.allowed = decide (entered.idxOf caller + 1 ≤ limit) := by
      obtain ⟨_, timer, wall, finished⟩ := listed.place complete caller
      obtain ⟨decision, outcome, place⟩ := concluded_place limit (entered.idxOf caller) _
        (timely caller timer _ wall finished)
      refine ⟨decision, ?_, place⟩
      rw [finished]
      exact congrArg some outcome
    choose decisions outcome count allowed using decided
    have everyone := listed.everyone complete
    have all : entered.length = n := everyone.length_eq.trans (List.length_finRange)
    refine ⟨decisions, outcome, ?_, ?_⟩
    · refine (everyone.symm.map _).trans (List.Perm.of_eq ?_)
      simp only [count, places_in_order listed.distinct, all]
    · calc
        (List.finRange n).countP (fun caller => (decisions caller).allowed)
        _ = entered.countP (fun caller => decide (entered.idxOf caller + 1 ≤ limit)) := by
          simp only [allowed, everyone.countP_eq]
        _ = (entered.map fun caller => entered.idxOf caller + 1).countP
              fun place => decide (place ≤ limit) := by
          rw [List.countP_map]
          rfl
        _ = min n limit := by rw [places_in_order listed.distinct, places_within, all]

/-- A check in the window of the others is told the place behind them. -/
theorem Opened.next_check (opened : hall.Opened crowd times stop entered)
    (complete : hall.Complete crowd.limit) (timeout window : Nanos) {world : World MemoryStore}
    (shared : world.store = hall.store) (soon : world.clock.timer < stop)
    (dated : Dated world.clock.wall (MemoryStore.roundedSeconds (stop - world.clock.timer))) :
    ∃ decision after,
      (checkLimit timeout crowd.key crowd.limit window).perform world = (.ok (.ok decision), after) ∧
        decision.count = n + 1 ∧ decision.allowed = decide (n + 1 ≤ crowd.limit) := by
  have all : entered.length = n :=
    (opened.everyone complete).length_eq.trans (List.length_finRange)
  have live : world.store.live? crowd.key.text world.clock.timer = some ⟨n, stop⟩ := by
    have isLive : Bucket.isLive ⟨n, stop⟩ world.clock.timer := decide_eq_true soon
    unfold MemoryStore.live?
    rw [shared, opened.bucket, all, Option.filter_some, if_pos isLive]
  obtain ⟨after, performed, _, _⟩ := check_at_once timeout crowd.key crowd.limit window world
  obtain ⟨decision, outcome, place⟩ := concluded_place crowd.limit n _ dated
  refine ⟨decision, after, ?_, place⟩
  rw [performed, MemoryStore.increment_told, live, ← outcome]
  rfl

theorem not_exact_of_failed {caller : Fin n} {timer : Nanos} {overflow : Overflow}
    (complete : hall.Complete limit)
    (failed : (hall.progress caller).record? = some (timer, .error overflow)) :
    ¬ hall.Exact limit := by
  rintro ⟨decisions, decided, _, _⟩
  obtain ⟨wall, finished⟩ := Progress.finished_of_entry (complete caller) failed
  have outcome := decided caller
  rw [finished] at outcome
  cases outcome

end Hall

/-- Concurrent checks of one limit, in any order of readings and entries and with any calls on other keys
in between, where no reading falls behind the window that the first entry opens. They get the counts from
one on, each once, and as many are allowed as the limit says, if and only if that window ends on the timer
and each of them can name the date at which it is over. A further check in the window is told the next
place. -/
theorem interleaved_checks_exact (crowd : Crowd n) (store : MemoryStore) (run : List (Move n))
    (final : Hall n) (moves : Interleaving crowd ⟨store, fun _ => .waiting⟩ run final)
    (complete : final.Complete crowd.limit)
    (unused : ∀ timer ∈ ownReadings run, store.live? crowd.key.text timer = none)
    (inside : ∀ stop ∈ windowEnd? crowd run, ∀ timer ∈ readings run, timer < stop) :
    (final.Exact crowd.limit ↔
        ∀ stop ∈ windowEnd? crowd run, stop < MemoryStore.timerEnd ∧ final.Timely stop) ∧
      ∀ stop ∈ windowEnd? crowd run, stop < MemoryStore.timerEnd →
        ∀ (timeout window : Nanos) (world : World MemoryStore), world.store = final.store →
          world.clock.timer < stop →
          Dated world.clock.wall (MemoryStore.roundedSeconds (stop - world.clock.timer)) →
          ∃ decision after, (checkLimit timeout crowd.key crowd.limit window).perform world =
              (.ok (.ok decision), after) ∧
            decision.count = n + 1 ∧ decision.allowed = decide (n + 1 ≤ crowd.limit) := by
  have start : Hall.Unopened crowd (ownReadings run) ⟨store, fun _ => .waiting⟩ :=
    ⟨fun _ => rfl, (fun caller timer ready => by cases ready), unused⟩
  obtain ⟨stays, opens⟩ := start.run moves fun _ own => own
  cases opened : windowEnd? crowd run with
  | none =>
    have listed := (stays opened).listed 0
    refine ⟨iff_of_true ((listed.exact_iff complete).mpr ?_) (fun _ ends => by cases ends),
      fun _ ends => by cases ends⟩
    intro caller
    exact absurd (listed.place complete caller).1 List.not_mem_nil
  | some stop =>
    have soon := inside stop opened
    have own_soon : ∀ timer ∈ ownReadings run, timer < stop :=
      fun timer own => soon timer (own_readings_made timer own)
    rcases opens stop opened own_soon soon with ⟨ends, entered, counted⟩ | ⟨beyond, _, _, failed⟩
    · constructor
      · rw [counted.toListed.exact_iff complete]
        constructor
        · rintro timely _ ⟨⟩
          exact ⟨ends, timely⟩
        · intro timely
          exact (timely stop rfl).2
      · rintro _ ⟨⟩ _ timeout window world shared early dated
        exact counted.next_check complete timeout window shared early dated
    · constructor
      · refine iff_of_false (Hall.not_exact_of_failed complete failed) fun timely => ?_
        exact Nat.not_le.mpr (timely stop rfl).1 beyond
      · rintro _ ⟨⟩ ends
        exact absurd beyond (Nat.not_le.mpr ends)

/-- Two checks, the one with the older reading counted last, and a call on another key between them. -/
theorem interleaved_checks_exact_older_last :
    let crowd : Crowd 2 := ⟨.client "203.0.113.9", 1, fun _ => 60_000_000_000⟩
    let run : List (Move 2) := [.read 1 5, .read 0 10, .enter 0 10,
      .other ⟨12, "rate_limit:global", 1000⟩, .enter 1 5, .conclude 1 1_700_000_000_000_000_000,
      .conclude 0 1_700_000_000_000_000_020]
    ∃ final, Interleaving crowd ⟨.empty, fun _ => .waiting⟩ run final ∧ final.Complete crowd.limit ∧
      (∀ timer ∈ ownReadings run, MemoryStore.empty.live? crowd.key.text timer = none) ∧
      (∀ stop ∈ windowEnd? crowd run, ∀ timer ∈ readings run, timer < stop) ∧
      final.Exact crowd.limit := by
  intro crowd run
  have moves : ∃ final, Interleaving crowd ⟨.empty, fun _ => .waiting⟩ run final ∧
      (∃ told, final.progress 0 = .finished 10 told 1_700_000_000_000_000_020) ∧
      ∃ told, final.progress 1 = .finished 5 told 1_700_000_000_000_000_000 := by
    have elsewhere : crowd.key.text ≠ "rate_limit:global" := by decide
    exact ⟨_, .move (.read 5 rfl) (.move (.read 10 rfl) (.move (.enter rfl) (.move (.other _ elsewhere)
      (.move (.enter rfl) (.move (.conclude _ rfl) (.move (.conclude _ rfl) (.done _))))))),
      ⟨_, rfl⟩, _, rfl⟩
  obtain ⟨final, moves, ⟨first, finished_first⟩, second, finished_second⟩ := moves
  have complete : final.Complete crowd.limit := by
    refine Fin.forall_fin_two.mpr ⟨?_, ?_⟩
    · rw [finished_first]
      rfl
    · rw [finished_second]
      rfl
  have unused : ∀ timer ∈ ownReadings run,
      MemoryStore.empty.live? crowd.key.text timer = none := by
    intro timer _
    simp [MemoryStore.live?, MemoryStore.empty]
  have inside : ∀ stop ∈ windowEnd? crowd run, ∀ timer ∈ readings run, timer < stop := by
    decide
  refine ⟨final, moves, complete, unused, inside, ?_⟩
  refine (interleaved_checks_exact crowd .empty run final moves complete unused inside).1.mpr ?_
  rintro stop ⟨⟩
  refine ⟨by decide, Fin.forall_fin_two.mpr ⟨?_, ?_⟩⟩
  · intro timer told wall finished
    rw [finished_first] at finished
    cases finished
    decide
  · intro timer told wall finished
    rw [finished_second] at finished
    cases finished
    decide

/-- A single check, with a window that ends on the timer but at no date: it breaks down. -/
theorem interleaved_check_undated :
    let crowd : Crowd 1 := ⟨.client "203.0.113.9", 1, fun _ => 9_000_000_000_000 * 1_000_000_000⟩
    let run : List (Move 1) := [.read 0 0, .enter 0 0, .conclude 0 1_700_000_000_000_000_000]
    ∃ final, Interleaving crowd ⟨.empty, fun _ => .waiting⟩ run final ∧ final.Complete crowd.limit ∧
      (∀ timer ∈ ownReadings run, MemoryStore.empty.live? crowd.key.text timer = none) ∧
      (∀ stop ∈ windowEnd? crowd run, ∀ timer ∈ readings run, timer < stop) ∧
      ¬ final.Exact crowd.limit := by
  intro crowd run
  have unused : MemoryStore.empty.live? crowd.key.text 0 = none := by
    simp [MemoryStore.live?, MemoryStore.empty]
  have told : (MemoryStore.empty.increment 0 crowd.key.text (crowd.ttl 0)).2 =
      .ok ⟨(0 + 1 : Nat), (9000000000000 : Nat)⟩ := by
    have ends : ¬ MemoryStore.timerEnd ≤ 0 + crowd.ttl 0 := by decide
    have opens : MemoryStore.joined none 0 (crowd.ttl 0) = .ok ⟨1, 0 + crowd.ttl 0⟩ := if_neg ends
    have lasts : MemoryStore.roundedSeconds (0 + crowd.ttl 0 - 0) = 9000000000000 := by decide
    rw [MemoryStore.increment_told, unused, opens]
    simp only [Except.map, Bucket.snapshot, lasts]
  refine ⟨_, .move (.read 0 rfl) (.move (.enter rfl) (.move (.conclude _ rfl) (.done _))), ?_, ?_, ?_, ?_⟩
  · exact Fin.forall_fin_one.mpr rfl
  · intro timer own
    cases List.mem_singleton.mp own
    exact unused
  · decide
  · rintro ⟨decisions, decided, _, _⟩
    have outcome := decided 0
    obtain ⟨payload, broken⟩ := concluded_undated 1 0 9000000000000
      (by decide : ¬ Dated 1_700_000_000_000_000_000 (9000000000000 : Nat))
    simp only [Function.update_self, Progress.outcome?, told] at outcome
    cases broken.symm.trans (Option.some.inj outcome)

end Gatehouse.RateLimit
