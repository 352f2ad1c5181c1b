import Gatehouse.Proofs.RateLimit.InProcess
import Gatehouse.Proofs.RateLimit.LiveBuckets

/-! Clients that one limiter counts apart. A run and the same run without the requests of everyone else
lead to stores that may differ in thousands of buckets and have been swept at different times. But what a
client gets follows from the clocks and the live bucket of its own key, and the requests of others leave
both as they are. -/
namespace Gatehouse.RateLimit

/-- What comes to a limiter: a request, or time that goes by on the two clocks. The wall clock may also
be set back. -/
inductive Turn where
  | request (request : Request)
  | pass (timer : Nanos) (wall : Int)

/-- Whether a turn stays when the requests of everyone but one client are left out. -/
def Turn.concerns (address : String) : Turn → Bool
  | .request made => made.clientAddress = some address
  | .pass _ _ => true

/-- What is seen of a request that has been dealt with: what it comes to, the reports of the limiter, and
the reply of the store, where it was asked. -/
structure Seen where
  outcome : Except Interrupt Response
  reports : List (Scope × Outcome)
  told : Option Reply

/-- A handler whose answer depends on the request alone. The store, the clocks and the reports are not
its business. -/
structure Indifferent (handler : Handler MemoryStore) : Prop where
  answer : ∀ request first second,
    ((handler request).perform first).1 = ((handler request).perform second).1
  store : ∀ request world, ((handler request).perform world).2.store = world.store
  clock : ∀ request world, ((handler request).perform world).2.clock = world.clock
  reports : ∀ request world,
    ((handler request).perform world).2.journal.decisions = world.journal.decisions

namespace Stage

/-- A stage in front of a handler deals with a request. The journal is that of this request. -/
def deal (timeout : Nanos) (stage : Stage) (handler : Handler MemoryStore) (request : Request)
    (world : World MemoryStore) : Except Interrupt Response × World MemoryStore :=
  (stage.layer timeout handler request).perform { world with journal := .empty }

def seen (timeout : Nanos) (stage : Stage) (handler : Handler MemoryStore) (request : Request)
    (world : World MemoryStore) : Seen where
  outcome := (stage.deal timeout handler request world).1
  reports := (stage.deal timeout handler request world).2.journal.decisions
  told := (stage.visit request world.store world.clock).inquiry.map (·.attempt.reply)

/-- What is seen of the requests of a run, in order. -/
def transcript (timeout : Nanos) (stage : Stage) (handler : Handler MemoryStore) :
    List Turn → World MemoryStore → List (Request × Seen)
  | [], _ => []
  | .request request :: rest, world =>
    (request, stage.seen timeout handler request world) ::
      stage.transcript timeout handler rest (stage.deal timeout handler request world).2
  | .pass timer wall :: rest, world =>
    stage.transcript timeout handler rest
      { world with clock := .running (world.clock.wall + wall) (world.clock.timer + timer) }

variable {stage : Stage} {request : Request} {handler : Handler MemoryStore} {timeout : Nanos}
  {key : Key}

/-! ## One request -/

/-- The store of a process answers at once, so a stage does not wait for it. -/
theorem passage_at_once (derived : Key.derive stage.scope request = .ok key)
    (world : World MemoryStore) :
    stage.passage timeout request world =
      stage.conclude key ((stage.inquiry key world).answer world.clock.wall)
        ((stage.inquiry key world).made world) := by
  unfold passage
  simp only [derived, patience_in_process, World.has_time_zero, if_true, verdict_in_process]
  rfl

theorem conclude_clock (verdict : Verdict) (world : World MemoryStore) :
    (stage.conclude key verdict world).world.clock = world.clock := by
  cases verdict with
  | undecided error => exact (stage.noted_keeps _ _).2.2.2.1
  | broken payload => rfl
  | decided decision =>
    unfold conclude
    simp only []
    split
    · exact (stage.noted_keeps _ _).2.2.2.1
    · exact (stage.noted_keeps _ _).2.2.2.1

theorem passage_clock (timeout : Nanos) (stage : Stage) (request : Request)
    (world : World MemoryStore) :
    (stage.passage timeout request world).world.clock = world.clock := by
  cases derived : Key.derive stage.scope request with
  | error error =>
    unfold passage
    rw [derived]
    exact (stage.noted_keeps _ _).2.2.2.1
  | ok key =>
    rw [passage_at_once derived, conclude_clock]
    rfl

/-- However a request is dealt with, the clocks stand where they stood and the store is what the inquiry
has left. -/
theorem deal_leaves (timeout : Nanos) (stage : Stage) (request : Request)
    (indifferent : Indifferent handler) (world : World MemoryStore) :
    (stage.deal timeout handler request world).2.clock = world.clock ∧
      (stage.deal timeout handler request world).2.store =
        (stage.visit request world.store world.clock).leaves world.store := by
  have behind (passage : Passage MemoryStore) :
      (passage.resume (handler request).perform).2.clock = passage.world.clock ∧
        (passage.resume (handler request).perform).2.store = passage.world.store := by
    cases passage with
    | passed mark after => exact ⟨indifferent.clock request after, indifferent.store request after⟩
    | denied answer after => exact ⟨rfl, rfl⟩
    | ended interrupt after => exact ⟨rfl, rfl⟩
  unfold deal
  rw [layer_passage]
  obtain ⟨clock, store⟩ := behind (stage.passage timeout request { world with journal := .empty })
  rw [passage_clock] at clock
  rw [passage_store] at store
  exact ⟨clock, store⟩

/-- A request that has a counter is dealt with as the answer of the store says. -/
theorem deal_keyed (derived : Key.derive stage.scope request = .ok key) (world : World MemoryStore) :
    stage.deal timeout handler request world =
      (stage.conclude key ((stage.inquiry key world).answer world.clock.wall)
        ((stage.inquiry key world).made { world with journal := .empty })).resume
          (handler request).perform := by
  unfold deal
  rw [layer_passage, passage_at_once derived]
  rfl

/-- What comes of a verdict, and what is reported of it, does not depend on the world around it. -/
private theorem conclude_seen (stage : Stage) (key : Key) (request : Request)
    (indifferent : Indifferent handler) (verdict : Verdict) (first second : World MemoryStore)
    (same : first.journal.decisions = second.journal.decisions) :
    let one := (stage.conclude key verdict first).resume (handler request).perform
    let other := (stage.conclude key verdict second).resume (handler request).perform
    one.1 = other.1 ∧ one.2.journal.decisions = other.2.journal.decisions := by
  have logged (event : Event) :
      (first.logged event).journal.decisions = (second.logged event).journal.decisions := same
  cases verdict with
  | undecided error =>
    simp only [conclude, Passage.resume, indifferent.reports, noted_reports, logged, and_true]
    exact congrArg _ (indifferent.answer request _ _)
  | broken payload => exact ⟨rfl, same⟩
  | decided decision =>
    cases allowed : decision.allowed with
    | true =>
      simp only [conclude, allowed, if_true, Passage.resume, indifferent.reports, noted_reports, same,
        and_true]
      exact congrArg _ (indifferent.answer request _ _)
    | false =>
      simp only [conclude, allowed, Bool.false_eq_true, if_false, Passage.resume, noted_reports,
        logged, and_self]

/-- Two worlds where the wall clock and the reply of the store are the same show the same. -/
theorem seen_same (indifferent : Indifferent handler)
    (derived : Key.derive stage.scope request = .ok key) {first second : World MemoryStore}
    (wall : first.clock.wall = second.clock.wall)
    (reply : (stage.inquiry key first).attempt.reply = (stage.inquiry key second).attempt.reply) :
    stage.seen timeout handler request first = stage.seen timeout handler request second := by
  have answer : (stage.inquiry key first).answer first.clock.wall =
      (stage.inquiry key second).answer second.clock.wall := by
    unfold Inquiry.answer
    rw [reply, wall]
    rfl
  obtain ⟨outcome, reports⟩ := conclude_seen stage key request indifferent
    ((stage.inquiry key second).answer second.clock.wall)
    ((stage.inquiry key first).made { first with journal := .empty })
    ((stage.inquiry key second).made { second with journal := .empty }) rfl
  unfold seen
  simp only [deal_keyed derived, visit_keyed derived, Option.map_some, answer, outcome, reports, reply]

end Stage

/-! ## Two runs -/

/-- Two worlds that are the same to a client. -/
structure Alike (address : String) (first second : World MemoryStore) : Prop where
  clock : first.clock = second.clock
  live : first.store.live? (Key.client address).text first.clock.timer =
    second.store.live? (Key.client address).text second.clock.timer

theorem client_text_injective {address other : String}
    (same : (Key.client address).text = (Key.client other).text) : address = other :=
  (String.append_right_inj _).mp same

namespace Alike

variable {address : String} {first second : World MemoryStore} {stage : Stage} {request : Request}
  {handler : Handler MemoryStore}

theorem pass (alike : Alike address first second) (timer : Nanos) (wall : Int) :
    Alike address
      { first with clock := .running (first.clock.wall + wall) (first.clock.timer + timer) }
      { second with
        clock := .running (second.clock.wall + wall) (second.clock.timer + timer) } := by
  have earlier (world : World MemoryStore) : world.clock.timer ≤ world.clock.timer + timer :=
    Nat.le_add_right _ _
  constructor
  · simp only [alike.clock]
  · simp only [Clock.timer_running]
    rw [MemoryStore.live_later (earlier first), MemoryStore.live_later (earlier second), alike.live,
      alike.clock]

/-- A request of the client is dealt with in the same way in both, and they stay the same to it. -/
theorem own (alike : Alike address first second) (indifferent : Indifferent handler)
    (timeout : Nanos) (byClient : stage.scope = .client)
    (known : request.clientAddress = some address) :
    stage.seen timeout handler request first = stage.seen timeout handler request second ∧
      Alike address (stage.deal timeout handler request first).2
        (stage.deal timeout handler request second).2 := by
  have derived : Key.derive stage.scope request = .ok (.client address) := by
    rw [byClient]
    unfold Key.derive
    rw [known]
  have positive : 0 < stage.policy.windowSeconds * 1_000_000_000 :=
    Nat.mul_pos (Nat.lt_of_lt_of_le Nat.one_pos (Nat.le_max_left ..)) (by decide)
  constructor
  · refine Stage.seen_same indifferent derived (congrArg Clock.wall alike.clock) ?_
    unfold Stage.inquiry
    rw [attempted, attempted, MemoryStore.increment_told, MemoryStore.increment_told, alike.live,
      alike.clock]
  · have leaves (world : World MemoryStore) :
        (stage.deal timeout handler request world).2.store.live? (Key.client address).text
            (stage.deal timeout handler request world).2.clock.timer =
          (MemoryStore.joined
            (world.store.live? (Key.client address).text world.clock.timer) world.clock.timer
            (stage.policy.windowSeconds * 1_000_000_000)).toOption := by
      obtain ⟨clock, store⟩ := stage.deal_leaves timeout request indifferent world
      rw [clock, store, Stage.visit_keyed derived]
      unfold Stage.inquiry
      rw [attempted]
      exact MemoryStore.live_after_own positive
    constructor
    · rw [(stage.deal_leaves timeout request indifferent first).1,
        (stage.deal_leaves timeout request indifferent second).1, alike.clock]
    · rw [leaves first, leaves second, alike.live, alike.clock]

/-- A request of anyone else changes nothing for the client, whether it is counted or not. -/
theorem other (alike : Alike address first second) (indifferent : Indifferent handler)
    (timeout : Nanos) (byClient : stage.scope = .client)
    (foreign : request.clientAddress ≠ some address) :
    Alike address (stage.deal timeout handler request first).2 second := by
  obtain ⟨clock, store⟩ := stage.deal_leaves timeout request indifferent first
  have live : (stage.deal timeout handler request first).2.store.live? (Key.client address).text
      first.clock.timer = first.store.live? (Key.client address).text first.clock.timer := by
    rw [store]
    cases known : request.clientAddress with
    | none =>
      have derived : Key.derive stage.scope request = .error .addressUnavailable := by
        rw [byClient]
        unfold Key.derive
        rw [known]
      rw [Stage.visit_keyless derived]
      rfl
    | some third =>
      have derived : Key.derive stage.scope request = .ok (.client third) := by
        rw [byClient]
        unfold Key.derive
        rw [known]
      have different : (Key.client address).text ≠ (Key.client third).text := by
        intro same
        rw [client_text_injective same] at foreign
        exact foreign known
      rw [Stage.visit_keyed derived]
      unfold Stage.inquiry
      rw [attempted]
      exact MemoryStore.live_after_other different
  constructor
  · rw [clock, alike.clock]
  · rw [clock, live, alike.live]

/-- Alike worlds show the client the same for as long as a run takes, whether the others are there or
not. -/
theorem transcripts (alike : Alike address first second) (indifferent : Indifferent handler)
    (timeout : Nanos) (byClient : stage.scope = .client) (run : List Turn) :
    (stage.transcript timeout handler run first).filter
        (fun entry => entry.1.clientAddress = some address) =
      stage.transcript timeout handler (run.filter (Turn.concerns address)) second := by
  induction run generalizing first second with
  | nil => rfl
  | cons turn rest ih =>
    cases turn with
    | pass timer wall => exact ih (alike.pass timer wall)
    | request request =>
      by_cases known : request.clientAddress = some address
      · obtain ⟨seen, still⟩ := alike.own indifferent timeout byClient known
        simp only [Stage.transcript, List.filter_cons, Turn.concerns, known, decide_true, if_true, seen,
          ih still]
      · have still := alike.other indifferent timeout byClient known
        simp only [Stage.transcript, List.filter_cons, Turn.concerns, known, decide_false,
          Bool.false_eq_true, if_false, ih still]

end Alike

/-- A limiter that counts by client does not let clients affect each other. Of any run over any store,
what is seen of the requests of one client is what is seen when the requests of all others are left out,
those without an address among them. -/
theorem clients_apart (timeout : Nanos) (policy : Policy) (observed : Bool)
    (handler : Handler MemoryStore) (indifferent : Indifferent handler) (address : String)
    (run : List Turn) (world : World MemoryStore) :
    let stage : Stage := ⟨.client, policy, observed⟩
    (stage.transcript timeout handler run world).filter
        (fun entry => entry.1.clientAddress = some address) =
      stage.transcript timeout handler (run.filter (Turn.concerns address)) world :=
  (⟨rfl, rfl⟩ : Alike address world world).transcripts indifferent timeout rfl run

/-- Two clients and somebody without an address, at a limit of one: the other two are left out. -/
theorem clients_apart_of_three :
    let stage : Stage := ⟨.client, .ofSeconds 1 60, true⟩
    let handler : Handler MemoryStore := fun _ => return .ofStatus 200
    let first : Request :=
      ⟨"GET", "/", ⟨[("x-real-ip", [49, 46, 49, 46, 49, 46, 49])]⟩, [], none, none, none⟩
    let second : Request :=
      ⟨"GET", "/", ⟨[("x-real-ip", [50, 46, 50, 46, 50, 46, 50])]⟩, [], none, none, none⟩
    let unknown : Request := ⟨"GET", "/", .empty, [], none, none, none⟩
    let passed : Turn := .pass 59_000_000_000 59_000_000_000
    let run : List Turn :=
      [.request first, .request second, passed, .request unknown, .request first]
    let world : World MemoryStore := World.start 1_700_000_000_000_000_000 .empty
    Indifferent handler ∧
      (stage.transcript standardStoreTimeout handler run world).filter
          (fun entry => entry.1.clientAddress = some "1.1.1.1") =
        stage.transcript standardStoreTimeout handler [.request first, passed, .request first]
          world := by
  intro stage handler first second unknown passed run world
  have indifferent : Indifferent handler :=
    ⟨fun _ _ _ => rfl, fun _ _ => rfl, fun _ _ => rfl, fun _ _ => rfl⟩
  have own : run.filter (Turn.concerns "1.1.1.1") =
      [.request first, passed, .request first] := rfl
  have apart := clients_apart standardStoreTimeout (.ofSeconds 1 60) true handler indifferent
    "1.1.1.1" run world
  rw [own] at apart
  exact ⟨indifferent, apart⟩

end Gatehouse.RateLimit
