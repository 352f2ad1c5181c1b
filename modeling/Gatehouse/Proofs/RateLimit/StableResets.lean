import Gatehouse.Proofs.RateLimit.Resets

/-! What the checks of one window are told of its end. Each of them rounds another rest of the window to
the nearest second and rounds its sum with another reading of the wall clock down. The rests and the
readings belong together, as both clocks move on alike: their sum is always the instant at which the
window is over. So what is told of it strays by less than a second, and in whole seconds there are two
values at most. -/
namespace Gatehouse.RateLimit

/-! ## Runs -/

/-- One thing that happens to a world: time passes on both clocks alike, a limit is checked on some key,
or the store is called by itself. -/
inductive Happening where
  | pass (span : Nanos)
  | check (timeout : Nanos) (key : Key) (limit : Nat) (window : Nanos)
  | call (key : String) (ttl : Nanos)

/-- A check in a run: its key, the reading of the clocks at which it is made, what it comes to, and the
live bucket of the key behind it. -/
structure Report where
  key : Key
  clock : Clock
  outcome : Except Interrupt (Except LimitError Decision)
  bucket : Option Bucket

/-- The checks of a run, in order. -/
def reports : List Happening → World MemoryStore → List Report
  | [], _ => []
  | .pass span :: rest, world => reports rest { world with clock := world.clock.advance span }
  | .call key ttl :: rest, world =>
    reports rest { world with store := (world.store.increment world.clock.timer key ttl).1 }
  | .check timeout key limit window :: rest, world =>
    let (outcome, after) := (checkLimit timeout key limit window).perform world
    ⟨key, world.clock, outcome, after.store.live? key.text world.clock.timer⟩ :: reports rest after

namespace Report

/-- A check in the window of a key that is over at some reading of the timer: it has been counted in the
bucket that lives until then. -/
def Within (report : Report) (key : Key) (stop : Nanos) : Prop :=
  report.key = key ∧ report.bucket.map Bucket.expiresAt = some stop

/-- What is known of a check that is made after a reading of the clocks: they have moved on together
since, and what the check comes to is what the bucket says that it has been counted in. Without one it
is not decided. -/
structure Told (report : Report) (start : Clock) : Prop where
  together : report.clock.wall - report.clock.timer = start.wall - start.timer
  counted : ∀ bucket ∈ report.bucket, 1 ≤ bucket.count ∧ bucket.isLive report.clock.timer ∧
    ∃ limit, report.outcome =
      concluded limit report.clock.wall (.ok (bucket.snapshot report.clock.timer))
  uncounted : report.bucket = none → ∀ decision, report.outcome ≠ .ok (.ok decision)

end Report

theorem joined_count_pos {live : Option Bucket} {now ttl : Nanos} {bucket : Bucket}
    (joins : MemoryStore.joined live now ttl = .ok bucket) : 1 ≤ bucket.count := by
  cases live with
  | some old =>
    cases joins
    exact Nat.le_add_left ..
  | none =>
    unfold MemoryStore.joined at joins
    split_ifs at joins
    cases joins
    exact Nat.le_refl 1

/-- What a check in a run is told, and the live bucket of its key behind it, follow from the bucket that
it joins. -/
theorem reports_check (timeout : Nanos) (key : Key) (limit : Nat) (window : Nanos)
    (rest : List Happening) (world : World MemoryStore) :
    let counted := MemoryStore.joined (world.store.live? key.text world.clock.timer)
      world.clock.timer (wholeSeconds window * 1_000_000_000)
    ∃ after, reports (.check timeout key limit window :: rest) world =
        ⟨key, world.clock,
          concluded limit world.clock.wall (counted.map (·.snapshot world.clock.timer)),
          counted.toOption⟩ :: reports rest after ∧
      after.clock = world.clock ∧
      after.store.live? key.text world.clock.timer = counted.toOption := by
  intro counted
  obtain ⟨after, performed, store, clock⟩ := check_at_once timeout key limit window world
  rw [MemoryStore.increment_told] at performed
  have positive : 0 < wholeSeconds window * 1_000_000_000 :=
    Nat.mul_pos (Nat.lt_of_lt_of_le Nat.one_pos (Nat.le_max_left ..)) (by decide)
  have live : after.store.live? key.text world.clock.timer = counted.toOption := by
    rw [store, MemoryStore.live_after_own positive]
  refine ⟨after, ?_, clock, live⟩
  rw [reports, performed]
  simp only [live]
  rfl

/-- Whatever happens in a run, its checks are told by the buckets that they are counted in. -/
theorem reports_told (run : List Happening) (world : World MemoryStore) :
    ∀ report ∈ reports run world, report.Told world.clock := by
  induction run generalizing world with
  | nil =>
    intro report member
    cases member
  | cons turn rest ih =>
    cases turn with
    | pass span =>
      intro report member
      have told := ih { world with clock := world.clock.advance span } report member
      refine ⟨told.together.trans ?_, told.counted, told.uncounted⟩
      obtain ⟨wall, timer⟩ := Clock.Together.advance world.clock span
      rw [wall, timer]
      unfold Nanos at *
      omega
    | call key ttl => exact ih _
    | check timeout key limit window =>
      obtain ⟨after, first, clock, live⟩ := reports_check timeout key limit window rest world
      rw [first]
      refine List.forall_mem_cons.mpr ⟨?_, clock ▸ ih after⟩
      cases counted : MemoryStore.joined (world.store.live? key.text world.clock.timer)
          world.clock.timer (wholeSeconds window * 1_000_000_000) with
      | error overflow =>
        refine ⟨rfl, fun bucket held => ?_, fun _ decision decided => ?_⟩
        · cases held
        · cases decided
      | ok joined =>
        refine ⟨rfl, fun bucket held => ?_, fun unheld => ?_⟩
        · cases held
          have isLive := MemoryStore.live_isLive joined (live.trans (congrArg _ counted))
          exact ⟨joined_count_pos counted, isLive, limit, rfl⟩
        · cases unheld

/-! ## What is told of the end -/

/-- The earlier one of the two seconds that may be told of a window that is over at an instant of the
wall clock. -/
def earlierReset (ends : Int) : Int := (ends - 499_999_999).fdiv 1_000_000_000

/-- What a live bucket tells of its end strays by less than a second: the rest of its time is rounded by
half a second at most, so that its sum with the wall clock lies in the second around the end, and a
second holds the beginning of one second only. -/
theorem reset_strays {bucket : Bucket} {clock : Clock} (limit : Nat)
    (isLive : bucket.isLive clock.timer) :
    let ends : Int := clock.wall + (bucket.expiresAt - clock.timer)
    let told := ((bucket.snapshot clock.timer).decision limit clock.wall).resetSeconds
    (told = earlierReset ends ∨ told = earlierReset ends + 1) ∧
      told * 1_000_000_000 ≤ ends + 500_000_000 ∧ ends < told * 1_000_000_000 + 1_500_000_000 := by
  have ahead : clock.timer < bucket.expiresAt := of_decide_eq_true isLive
  simp only [Decision.resetSeconds, Snapshot.decision, Bucket.snapshot,
    MemoryStore.rounded_seconds_eq, earlierReset,
    Int.fdiv_eq_ediv_of_nonneg _ (by decide : (0 : Int) ≤ 1_000_000_000)]
  unfold Nanos at *
  omega

/-- A snapshot that can be true is decided exactly if its reset time has a date. -/
theorem concluded_decided_iff {limit : Nat} {wall : Int} {snapshot : Snapshot}
    (wellFormed : snapshot.WellFormed) {decision : Decision} :
    concluded limit wall (.ok snapshot) = .ok (.ok decision) ↔
      Dated wall snapshot.secondsLeft ∧ decision = snapshot.decision limit wall := by
  by_cases dated : Dated wall snapshot.secondsLeft
  · have decided := Decision.of_snapshot_decided limit wellFormed dated
    simp [concluded, decided, dated, eq_comm]
  · obtain ⟨overflow, fails⟩ := Decision.of_snapshot_overflows limit wellFormed dated
    simp [concluded, fails, dated]

/-- The reset is stable within a window. Whatever is checked and called in a run, on whatever keys and
for whatever limits and windows: the checks that are counted in one window of a key are told one of two
seconds, the later one of which follows the earlier. Each is at most half a second behind the instant of
the wall clock at which the bucket really is over, and begins less than a second and a half before it.
Every check that is decided is counted in some window, and every one in a window is decided, as long as
its reset time has a date. -/
theorem resets_of_one_window (run : List Happening) (world : World MemoryStore) :
    (∀ report ∈ reports run world, ∀ decision, report.outcome = .ok (.ok decision) →
      ∃ stop, report.Within report.key stop) ∧
    ∀ (key : Key) (stop : Nanos),
      let ends : Int := world.clock.wall + (stop - world.clock.timer)
      ∃ second : Int, ∀ report ∈ reports run world, report.Within key stop →
        (∀ bucket ∈ report.bucket, ∀ span : Nanos,
          bucket.isLive (report.clock.timer + span) ↔ report.clock.wall + span < ends) ∧
        ((∃ decision, report.outcome = .ok (.ok decision)) ↔
          Dated report.clock.wall (MemoryStore.roundedSeconds (stop - report.clock.timer))) ∧
        ∀ decision, report.outcome = .ok (.ok decision) →
          (decision.resetSeconds = second ∨ decision.resetSeconds = second + 1) ∧
          decision.resetSeconds * 1_000_000_000 ≤ ends + 500_000_000 ∧
          ends < decision.resetSeconds * 1_000_000_000 + 1_500_000_000 := by
  constructor
  · intro report member decision decided
    have told := reports_told run world report member
    cases held : report.bucket with
    | none => exact absurd decided (told.uncounted held decision)
    | some bucket => exact ⟨bucket.expiresAt, rfl, by rw [held]; rfl⟩
  · intro key stop ends
    refine ⟨earlierReset ends, fun report member within => ?_⟩
    have told := reports_told run world report member
    obtain ⟨bucket, held, rfl⟩ := Option.map_eq_some_iff.mp within.2
    obtain ⟨counted, isLive, limit, outcome⟩ := told.counted bucket held
    have same_end : ends = report.clock.wall + (bucket.expiresAt - report.clock.timer) := by
      have together := told.together
      omega
    have wellFormed : (bucket.snapshot report.clock.timer).WellFormed :=
      ⟨Int.ofNat_le.mpr counted, Int.natCast_nonneg _⟩
    have decided_iff (decision : Decision) :
        concluded limit report.clock.wall (.ok (bucket.snapshot report.clock.timer)) =
            .ok (.ok decision) ↔ _ := concluded_decided_iff wellFormed
    rw [outcome]
    refine ⟨fun other also_held span => ?_, ?_, fun decision decided => ?_⟩
    · obtain rfl : bucket = other := Option.some.inj (held.symm.trans also_held)
      rw [same_end, Bucket.isLive, decide_eq_true_iff]
      unfold Nanos at *
      omega
    · constructor
      · rintro ⟨decision, decided⟩
        exact ((decided_iff decision).mp decided).1
      · intro dated
        exact ⟨_, (decided_iff _).mpr ⟨dated, rfl⟩⟩
    · obtain ⟨_, rfl⟩ := (decided_iff decision).mp decided
      rw [same_end]
      exact reset_strays limit isLive

/-- Two checks in one window, before 1970 and half a second apart, that are told the two seconds. -/
theorem resets_of_one_window_before_1970 :
    let world : World MemoryStore := World.start (-1_502_000_000) .empty
    let check : Happening := .check standardStoreTimeout .global 5 1_000_000_000
    let run : List Happening := [check, .pass 501_000_000, check]
    ∃ first later : Report, reports run world = [first, later] ∧
      first.Within .global 1_000_000_000 ∧
      first.outcome = .ok (.ok ⟨true, 1, 4, -502_000_000⟩) ∧
      later.Within .global 1_000_000_000 ∧
      later.outcome = .ok (.ok ⟨true, 2, 3, -1_001_000_000⟩) ∧
      Decision.resetSeconds ⟨true, 1, 4, -502_000_000⟩ = -1 ∧
      Decision.resetSeconds ⟨true, 2, 3, -1_001_000_000⟩ = -2 ∧
      ∃ second : Int, ∀ report ∈ reports run world, report.Within .global 1_000_000_000 →
        ∀ decision, report.outcome = .ok (.ok decision) →
          decision.resetSeconds = second ∨ decision.resetSeconds = second + 1 := by
  intro world check run
  obtain ⟨after, first, clock, live⟩ :=
    reports_check standardStoreTimeout .global 5 1_000_000_000 (run.drop 1) world
  have timer : world.clock.timer = 0 := rfl
  have span : wholeSeconds 1_000_000_000 * 1_000_000_000 = 1_000_000_000 := by decide
  have opened : MemoryStore.joined (world.store.live? Key.global.text world.clock.timer)
      world.clock.timer (wholeSeconds 1_000_000_000 * 1_000_000_000) = .ok ⟨1, 1_000_000_000⟩ := by
    rw [show world.store.live? Key.global.text world.clock.timer = none from
      MemoryStore.live_empty, timer, span]
    exact MemoryStore.joined_next none (by decide)
  have first_told : concluded 5 world.clock.wall (.ok (Bucket.snapshot ⟨1, 1_000_000_000⟩ 0)) =
      .ok (.ok ⟨true, 1, 4, -502_000_000⟩) :=
    (concluded_decided_iff (by decide)).mpr ⟨by decide, rfl⟩
  rw [opened] at first live
  let passed : World MemoryStore := { after with clock := after.clock.advance 501_000_000 }
  obtain ⟨last, later, _, _⟩ := reports_check standardStoreTimeout .global 5 1_000_000_000 [] passed
  have reading : passed.clock = world.clock.advance 501_000_000 :=
    congrArg (·.advance 501_000_000) clock
  have later_timer : (world.clock.advance 501_000_000).timer = 501_000_000 := Nat.zero_add _
  have joined : MemoryStore.joined (passed.store.live? Key.global.text passed.clock.timer)
      passed.clock.timer (wholeSeconds 1_000_000_000 * 1_000_000_000) = .ok ⟨2, 1_000_000_000⟩ := by
    have kept : passed.store.live? Key.global.text 501_000_000 = some ⟨1, 1_000_000_000⟩ := by
      rw [MemoryStore.live_later (Nat.zero_le 501_000_000)]
      exact congrArg (Option.filter fun bucket => bucket.isLive 501_000_000) live
    rw [reading, later_timer, kept, span]
    rfl
  have wall : (world.clock.advance 501_000_000).wall = -1_001_000_000 := by decide
  have later_told : concluded 5 (world.clock.advance 501_000_000).wall
      (.ok (Bucket.snapshot ⟨2, 1_000_000_000⟩ 501_000_000)) =
        .ok (.ok ⟨true, 2, 3, -1_001_000_000⟩) := by
    rw [wall]
    exact (concluded_decided_iff (by decide)).mpr ⟨by decide, rfl⟩
  have both : reports run world =
      [⟨.global, world.clock, .ok (.ok ⟨true, 1, 4, -502_000_000⟩), some ⟨1, 1_000_000_000⟩⟩,
        ⟨.global, world.clock.advance 501_000_000, .ok (.ok ⟨true, 2, 3, -1_001_000_000⟩),
          some ⟨2, 1_000_000_000⟩⟩] := by
    rw [joined, reading, later_timer] at later
    rw [← first_told, ← later_told]
    exact first.trans (congrArg _ later)
  refine ⟨_, _, both, ⟨rfl, rfl⟩, rfl, ⟨rfl, rfl⟩, rfl, by decide, by decide, ?_⟩
  obtain ⟨second, told⟩ := (resets_of_one_window run world).2 .global 1_000_000_000
  exact ⟨second, fun report member within decision decided =>
    ((told report member within).2.2 decision decided).1⟩

end Gatehouse.RateLimit
