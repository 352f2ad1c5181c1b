import Gatehouse.Proofs.RateLimit.Checks
import Mathlib.Logic.Relation

/-! How long to wait for a new window. A check tells the second in which its window resets, and two
roundings go into that second: what is left of the window is rounded to the nearest second, and the sum
with the wall clock is rounded down. So the window may last beyond the start of the second that was told,
by less than a second and a half. Whoever has waited for so long, and has not been counted meanwhile,
starts a new window. -/
namespace Gatehouse

namespace Clock

/-- Both clocks have moved on by the same time. -/
def Together (clock : Clock) (span : Nanos) (later : Clock) : Prop :=
  later.wall = clock.wall + span ∧ later.timer = clock.timer + span

/-- Both clocks some time later, if they run alike. -/
def advance (clock : Clock) (span : Nanos) : Clock :=
  .running (clock.wall + span) (clock.timer + span)

namespace Together

variable {clock middle later : Clock} {span more : Nanos}

theorem here (clock : Clock) : clock.Together 0 clock := ⟨(Int.add_zero _).symm, rfl⟩

theorem trans (first : clock.Together span middle) (second : middle.Together more later) :
    clock.Together (span + more) later := by
  refine ⟨?_, ?_⟩
  · rw [second.1, first.1, Int.add_assoc, ← Int.natCast_add]
  · rw [second.2, first.2, Nat.add_assoc]

theorem advance (clock : Clock) (span : Nanos) : clock.Together span (clock.advance span) :=
  ⟨wall_running .., rfl⟩

end Together
end Clock

namespace RateLimit

/-- The end of a window stays behind the reset second that is told for it by less than this. -/
def resetSlack : Nanos := 1_499_999_998

/-! ## While a key is not asked for -/

/-- What may happen to the world while a key is not asked for: time passes, on both clocks alike, and
other keys are checked. -/
inductive Aside (key : Key) : World MemoryStore → World MemoryStore → Prop where
  | pass {world next : World MemoryStore} (span : Nanos) (store : next.store = world.store)
      (clock : world.clock.Together span next.clock) : Aside key world next
  | check {world : World MemoryStore} (timeout : Nanos) (other : Key) (limit : Nat)
      (window : Nanos) (elsewhere : key.text ≠ other.text) :
      Aside key world ((checkLimit timeout other limit window).perform world).2

/-- The clocks have moved on together, and the bucket of a key is the one that it had, if it is still
there. -/
def Untouched (key : Key) (world later : World MemoryStore) : Prop :=
  (∃ span, world.clock.Together span later.clock) ∧
    ∀ bucket ∈ later.store.buckets.get? key.text, bucket ∈ world.store.buckets.get? key.text

namespace Untouched

variable {key : Key} {world middle later : World MemoryStore}

theorem here : Untouched key world world :=
  ⟨⟨0, .here _⟩, fun _ held => held⟩

theorem trans (first : Untouched key world middle) (second : Untouched key middle later) :
    Untouched key world later := by
  obtain ⟨⟨span, clock⟩, held⟩ := first
  obtain ⟨⟨more, also_clock⟩, also_held⟩ := second
  exact ⟨⟨span + more, clock.trans also_clock⟩,
    fun bucket kept => held bucket (also_held bucket kept)⟩

theorem aside (step : Aside key world later) : Untouched key world later := by
  cases step with
  | pass span store clock =>
    refine ⟨⟨span, clock⟩, ?_⟩
    rw [store]
    exact fun bucket held => held
  | check timeout other limit window elsewhere =>
    obtain ⟨after, performed, store, clock⟩ := check_at_once timeout other limit window world
    rw [performed]
    refine ⟨⟨0, ?_⟩, ?_⟩
    · rw [clock]
      exact .here _
    · intro bucket kept
      rw [store] at kept
      exact (MemoryStore.other_spares world.store world.clock.timer
        (wholeSeconds window * 1_000_000_000) elsewhere).held kept

theorem asides (steps : Relation.ReflTransGen (Aside key) world later) :
    Untouched key world later := by
  induction steps with
  | refl => exact here
  | tail _ step before => exact before.trans (aside step)

end Untouched

/-! ## What a check tells -/

private theorem concluded_decided {limit : Nat} {wall : Int} {told : Except Overflow Snapshot}
    {decision : Decision} (decided : concluded limit wall told = .ok (.ok decision)) :
    ∃ snapshot, told = .ok snapshot ∧ decision = snapshot.decision limit wall := by
  cases told with
  | error overflow => cases decided
  | ok snapshot =>
    unfold concluded at decided
    cases made : Decision.ofSnapshot snapshot limit wall with
    | ok known =>
      simp only [made] at decided
      cases decided
      exact ⟨snapshot, rfl, (Decision.of_snapshot_ok made).2.2⟩
    | error failure =>
      simp only [made] at decided
      cases failure with
      | refused error => cases decided
      | overflowed overflow => cases decided

/-- A check follows from the bucket that it joins, and leaves that bucket as the live one. -/
private theorem check_joins (timeout : Nanos) (key : Key) (limit : Nat) (window : Nanos)
    (world : World MemoryStore) :
    let counted := MemoryStore.joined (world.store.live? key.text world.clock.timer)
      world.clock.timer (wholeSeconds window * 1_000_000_000)
    ∃ after, (checkLimit timeout key limit window).perform world =
        (concluded limit world.clock.wall (counted.map (·.snapshot world.clock.timer)), after) ∧
      after.clock = world.clock ∧
      ∀ bucket, counted = .ok bucket → after.store.buckets.get? key.text = some bucket ∧
        after.store.live? key.text world.clock.timer = some bucket := by
  intro counted
  obtain ⟨after, performed, store, clock⟩ := check_at_once timeout key limit window world
  rw [MemoryStore.increment_told] at performed
  refine ⟨after, performed, clock, ?_⟩
  intro bucket joins
  have positive : 0 < wholeSeconds window * 1_000_000_000 :=
    Nat.mul_pos (Nat.lt_of_lt_of_le Nat.one_pos (Nat.le_max_left ..)) (by decide)
  rw [store, MemoryStore.live_after_own positive]
  exact ⟨MemoryStore.bucket_after_own joins, congrArg Except.toOption joins⟩

/-- A check that is decided leaves the bucket behind that it was counted in, and tells of its end. -/
theorem check_leaves {timeout window : Nanos} {key : Key} {limit : Nat}
    {world after : World MemoryStore} {decision : Decision}
    (told : (checkLimit timeout key limit window).perform world = (.ok (.ok decision), after)) :
    after.clock = world.clock ∧ ∃ bucket, after.store.buckets.get? key.text = some bucket ∧
      decision = (bucket.snapshot world.clock.timer).decision limit world.clock.wall := by
  obtain ⟨left, performed, clock, joins⟩ := check_joins timeout key limit window world
  rw [told, Prod.mk.injEq] at performed
  obtain ⟨outcome, rfl⟩ := performed
  refine ⟨clock, ?_⟩
  obtain ⟨snapshot, answered, decided⟩ := concluded_decided outcome.symm
  cases counted : MemoryStore.joined (world.store.live? key.text world.clock.timer)
      world.clock.timer (wholeSeconds window * 1_000_000_000) with
  | error overflow =>
    rw [counted] at answered
    cases answered
  | ok bucket =>
    rw [counted] at answered
    cases answered
    exact ⟨bucket, (joins bucket counted).1, decided⟩

/-- Once the slack has passed behind the reset second that is told for a bucket, the bucket is over. -/
theorem over_behind_reset {bucket : Bucket} {clock : Clock} {limit : Nat} {span : Nanos}
    (waited : ((bucket.snapshot clock.timer).decision limit clock.wall).resetSeconds * 1_000_000_000 +
      resetSlack ≤ clock.wall + span) : bucket.expiresAt ≤ clock.timer + span := by
  simp only [Decision.resetSeconds, Snapshot.decision, Bucket.snapshot,
    MemoryStore.rounded_seconds_eq, resetSlack,
    Int.fdiv_eq_ediv_of_nonneg _ (by decide : (0 : Int) ≤ 1_000_000_000)] at waited
  unfold Nanos at *
  omega

/-- What a bucket that is just opened for some seconds tells. -/
private theorem opened_snapshot (now seconds : Nat) :
    (⟨1, now + seconds * 1_000_000_000⟩ : Bucket).snapshot now = ⟨1, seconds⟩ := by
  have left : MemoryStore.roundedSeconds (now + seconds * 1_000_000_000 - now) = seconds := by
    rw [MemoryStore.rounded_seconds_eq]
    omega
  simp only [Bucket.snapshot, left, Nat.cast_one]

/-- The first check in a window is decided if the window ends on the timer and its end has a date. -/
theorem first_check_iff (timeout : Nanos) (key : Key) (limit : Nat) (window : Nanos)
    {world : World MemoryStore} (unused : world.store.live? key.text world.clock.timer = none) :
    let seconds := wholeSeconds window
    ((checkLimit timeout key limit window).perform world).1 =
        .ok (.ok ⟨decide (1 ≤ limit), 1, limit - 1, world.clock.wall + seconds * 1_000_000_000⟩) ↔
      world.clock.timer + seconds * 1_000_000_000 < MemoryStore.timerEnd ∧
        Dated world.clock.wall seconds := by
  intro seconds
  obtain ⟨after, performed, _, _⟩ := check_joins timeout key limit window world
  rw [performed, unused]
  by_cases fits : world.clock.timer + seconds * 1_000_000_000 < MemoryStore.timerEnd
  · have opened : (MemoryStore.joined none world.clock.timer (seconds * 1_000_000_000)).map
        (·.snapshot world.clock.timer) = .ok ⟨1, seconds⟩ := by
      rw [MemoryStore.joined_next none fits]
      exact congrArg Except.ok (opened_snapshot world.clock.timer seconds)
    have wellFormed : Snapshot.WellFormed ⟨1, seconds⟩ := ⟨Int.le_refl 1, Int.natCast_nonneg seconds⟩
    rw [opened]
    by_cases dated : Dated world.clock.wall seconds
    · have decided := Decision.of_snapshot_decided limit wellFormed dated
      simp [concluded, decided, Snapshot.decision, fits, dated]
    · obtain ⟨overflow, fails⟩ := Decision.of_snapshot_overflows limit wellFormed dated
      simp [concluded, fails, dated]
  · have beyond : MemoryStore.joined none world.clock.timer (seconds * 1_000_000_000) =
        .error .timer := if_pos (Nat.not_lt.mp fits)
    rw [beyond]
    simp [concluded, Except.map, fits]

/-! ## Waiting -/

/-- Whoever waits for the reset second that a check told, and the slack behind it, is counted anew. The
bucket of the check is over from then on. The next check of the key, whatever other keys are checked for
meanwhile, is the first one in its window, and it is decided if that window ends on the timer and its end
has a date. -/
theorem reset_waited_for {timeout window : Nanos} {key : Key} {limit : Nat}
    {world after : World MemoryStore} {decision : Decision}
    (told : (checkLimit timeout key limit window).perform world = (.ok (.ok decision), after)) :
    (∃ bucket, after.store.buckets.get? key.text = some bucket ∧ bucket.count = decision.count ∧
      ∀ span : Nanos, decision.resetSeconds * 1_000_000_000 + resetSlack ≤ after.clock.wall + span →
        bucket.isLive (after.clock.timer + span) = false) ∧
    ∀ later, Relation.ReflTransGen (Aside key) after later →
      decision.resetSeconds * 1_000_000_000 + resetSlack ≤ later.clock.wall →
      later.store.live? key.text later.clock.timer = none ∧
        ∀ (patience : Nanos) (bound : Nat) (span : Nanos),
          let seconds := wholeSeconds span
          ((checkLimit patience key bound span).perform later).1 =
              .ok (.ok ⟨decide (1 ≤ bound), 1, bound - 1,
                later.clock.wall + seconds * 1_000_000_000⟩) ↔
            later.clock.timer + seconds * 1_000_000_000 < MemoryStore.timerEnd ∧
              Dated later.clock.wall seconds := by
  obtain ⟨same_clock, bucket, held, decided⟩ := check_leaves told
  have ended (span : Nanos)
      (waited : decision.resetSeconds * 1_000_000_000 + resetSlack ≤ after.clock.wall + span) :
      bucket.isLive (after.clock.timer + span) = false := by
    rw [decided, same_clock] at waited
    rw [same_clock]
    exact decide_eq_false (Nat.not_lt.mpr (over_behind_reset waited))
  refine ⟨⟨bucket, held, ?_, ended⟩, ?_⟩
  · rw [decided]
    rfl
  · intro later meanwhile waited
    obtain ⟨⟨span, wall, timer⟩, still_held⟩ := Untouched.asides meanwhile
    have dead : bucket.isLive later.clock.timer = false := by
      rw [wall] at waited
      rw [timer]
      exact ended span waited
    have unused : later.store.live? key.text later.clock.timer = none := by
      refine Option.filter_eq_none_iff.mpr fun other kept isLive => ?_
      have same : other = bucket := Option.some.inj ((still_held other kept).symm.trans held)
      rw [same, dead] at isLive
      cases isLive
    exact ⟨unused, fun patience bound span => first_check_iff patience key bound span unused⟩

/-- A check of the limit takes no time. -/
private theorem check_keeps_clock (timeout : Nanos) (key : Key) (limit : Nat) (window : Nanos)
    (world : World MemoryStore) :
    ((checkLimit timeout key limit window).perform world).2.clock = world.clock := by
  obtain ⟨after, performed, _, clock⟩ := check_at_once timeout key limit window world
  rw [performed]
  exact clock

/-- A check that opens a window of a second; another key is checked two seconds later. -/
theorem reset_waited_for_two_seconds :
    let world : World MemoryStore := World.start 1_700_000_000_499_999_998 .empty
    let check (key : Key) (world : World MemoryStore) :=
      (checkLimit standardStoreTimeout key 1 1_000_000_000).perform world
    let first := check .global world
    let later : World MemoryStore := { first.2 with clock := first.2.clock.advance 2_000_000_000 }
    let behind := (check (.client "1.1.1.1") later).2
    ∃ decision, first.1 = .ok (.ok decision) ∧
      decision.resetSeconds * 1_000_000_000 + resetSlack ≤ behind.clock.wall ∧
      behind.store.live? Key.global.text behind.clock.timer = none := by
  intro world check first later behind
  have unused : world.store.live? Key.global.text world.clock.timer = none := MemoryStore.live_empty
  have elsewhere : Key.global.text ≠ (Key.client "1.1.1.1").text := by decide
  have aside : Aside .global later behind := .check _ (.client "1.1.1.1") 1 _ elsewhere
  have meanwhile : Relation.ReflTransGen (Aside .global) first.2 behind :=
    (Relation.ReflTransGen.single (.pass 2_000_000_000 rfl (.advance ..))).tail aside
  have keeps (key : Key) (world : World MemoryStore) : (check key world).2.clock = world.clock :=
    check_keeps_clock standardStoreTimeout key 1 1_000_000_000 world
  have first_clock : first.2.clock = world.clock := keeps .global world
  have clock : behind.clock = first.2.clock.advance 2_000_000_000 := keeps (.client "1.1.1.1") later
  rw [first_clock] at clock
  have opened :=
    (first_check_iff standardStoreTimeout .global 1 1_000_000_000 unused).mpr (by decide)
  generalize told : Decision.mk _ _ _ _ = decision at opened
  have waited : decision.resetSeconds * 1_000_000_000 + resetSlack ≤ behind.clock.wall := by
    rw [clock, ← told]
    decide
  have performed : first = (.ok (.ok decision), first.2) := Prod.ext opened rfl
  exact ⟨decision, opened, waited, ((reset_waited_for performed).2 behind meanwhile waited).1⟩

/-- As long as a bucket lives, a check some time later is counted in it. -/
private theorem check_later (timeout : Nanos) {key : Key} (limit : Nat) {window : Nanos}
    {world : World MemoryStore} {bucket : Bucket} {clock : Clock} (span : Nanos)
    (time : world.clock = clock)
    (live : world.store.live? key.text clock.timer = some bucket)
    (isLive : bucket.isLive (clock.timer + span)) :
    let joined : Bucket := ⟨bucket.count + 1, bucket.expiresAt⟩
    let asked := (checkLimit timeout key limit window).perform
      { world with clock := world.clock.advance span }
    asked.1 = concluded limit (clock.advance span).wall
        (.ok (joined.snapshot (clock.timer + span))) ∧
      asked.2.store.live? key.text (clock.timer + span) = some joined ∧
      asked.2.clock = clock.advance span := by
  subst time
  intro joined asked
  have still : world.store.live? key.text (world.clock.timer + span) = some bucket := by
    rw [MemoryStore.live_later (Nat.le_add_right world.clock.timer span), live, Option.filter_some,
      if_pos isLive]
  obtain ⟨after, performed, clock, joins⟩ := check_joins timeout key limit window
    { world with clock := world.clock.advance span }
  have timer : (world.clock.advance span).timer = world.clock.timer + span := rfl
  simp only [timer, still] at performed joins
  have left : asked = _ := performed
  rw [left]
  exact ⟨rfl, (joins joined rfl).2, clock⟩

/-- A client that waits for the reset second may be denied in the same window. The second check here is
told a reset second that has begun already, and almost a second and a half behind the start of that
second a third one is counted together with it. -/
theorem reset_before_end :
    let ask (world : World MemoryStore) :=
      (checkLimit standardStoreTimeout .global 1 1_000_000_000).perform world
    let pass (span : Nanos) (world : World MemoryStore) : World MemoryStore :=
      { world with clock := world.clock.advance span }
    let first := ask (World.start 1_700_000_000_499_999_998 .empty)
    let second := ask (pass 500_000_001 first.2)
    let third := ask (pass 499_999_998 second.2)
    ∃ decision, second.1 = .ok (.ok decision) ∧ decision.resetSeconds = 1700000000 ∧
      (pass 499_999_998 second.2).clock.wall = 1700000000 * 1_000_000_000 + 1_499_999_997 ∧
      third.1 = .ok (.ok ⟨false, 3, 0, 1_700_000_001_499_999_997⟩) := by
  intro ask pass first second third
  obtain ⟨after, performed, clock, joins⟩ :=
    check_joins standardStoreTimeout .global 1 1_000_000_000
    (World.start 1_700_000_000_499_999_998 .empty)
  have opened : MemoryStore.joined (MemoryStore.empty.live? Key.global.text 0) 0 1_000_000_000 =
      .ok ⟨1, 1_000_000_000⟩ := by
    rw [MemoryStore.live_empty]
    exact MemoryStore.joined_next none (by decide)
  have left : first.2 = after := congrArg Prod.snd performed
  have live : after.store.live? Key.global.text 0 = some ⟨1, 1_000_000_000⟩ := (joins _ opened).2
  rw [← left] at clock live
  obtain ⟨told, still_live, later⟩ :=
    check_later standardStoreTimeout 1 500_000_001 clock live (by decide)
  obtain ⟨denied, _, _⟩ :=
    check_later standardStoreTimeout 1 499_999_998 later still_live (by decide)
  refine ⟨⟨false, 2, 0, 1_700_000_000_999_999_999⟩, told.trans rfl, by decide, ?_, denied.trans rfl⟩
  exact congrArg (fun clock => (clock.advance 499_999_998).wall) later

end RateLimit
end Gatehouse
