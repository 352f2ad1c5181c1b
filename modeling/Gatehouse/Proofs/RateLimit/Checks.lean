import Gatehouse.Proofs.RateLimit.InProcess
import Gatehouse.Proofs.RateLimit.LiveBuckets

/-! One check of a limit that is counted in the store of the process. All that matters of the store is
the live bucket of the key: the check is counted there, or in a new one that takes its place, and what
it is told follows from that bucket. -/
namespace Gatehouse.RateLimit

/-- The bucket that a call is counted in, with the call: the live one of its key, or else a new one. -/
def Bucket.next (live : Option Bucket) (now ttl : Nanos) : Bucket :=
  match live with
  | some bucket => ⟨bucket.count + 1, bucket.expiresAt⟩
  | none => ⟨1, now + ttl⟩

namespace Bucket

variable {live : Option Bucket} {now ttl : Nanos}

theorem next_count_pos : 1 ≤ (next live now ttl).count := by
  cases live with
  | some bucket => exact Nat.le_add_left ..
  | none => exact Nat.le_refl 1

/-- A bucket that lives no longer than a new one would goes on like that. -/
theorem next_short (short : ∀ bucket ∈ live, bucket.expiresAt ≤ now + ttl) :
    (next live now ttl).expiresAt ≤ now + ttl := by
  cases live with
  | some bucket => exact short bucket rfl
  | none => exact Nat.le_refl _

end Bucket

namespace MemoryStore

variable {store : MemoryStore} {now ttl : Nanos} {key : String}

theorem joined_next (live : Option Bucket) (fits : now + ttl < timerEnd) :
    joined live now ttl = .ok (Bucket.next live now ttl) := by
  cases live with
  | some bucket => rfl
  | none => exact if_neg (Nat.not_le.mpr fits)

/-- What is left of a window that has some seconds at most is told as no more than these. -/
theorem rounded_seconds_le {stop seconds : Nat} (short : stop ≤ now + seconds * 1_000_000_000) :
    roundedSeconds (stop - now) ≤ seconds := by
  unfold roundedSeconds
  unfold Nanos at now
  omega

/-- A call is counted in the live bucket of its key, or in a new one that ends on the timer. -/
theorem increment_next (store : MemoryStore) (key : String) (positive : 0 < ttl)
    (fits : now + ttl < timerEnd) :
    let bucket := Bucket.next (store.live? key now) now ttl
    ∃ after, store.increment now key ttl =
        (after, .ok ⟨bucket.count, roundedSeconds (bucket.expiresAt - now)⟩) ∧
      after.live? key now = some bucket := by
  intro bucket
  have counted := joined_next (store.live? key now) fits
  refine ⟨(store.increment now key ttl).1, Prod.ext rfl ?_, ?_⟩
  · rw [increment_told, counted]
    rfl
  · rw [live_after_own positive, counted]
    rfl

end MemoryStore

/-- At a reading of the clocks a window of some seconds that begins then is in range. -/
structure WithinClocks (seconds : Nat) (clock : Clock) : Prop where
  timer : clock.timer + seconds * 1_000_000_000 < MemoryStore.timerEnd
  dated : Dated clock.wall seconds
  present : calendarStart ≤ clock.wall

instance (seconds : Nat) (clock : Clock) : Decidable (WithinClocks seconds clock) :=
  decidable_of_iff
    (clock.timer + seconds * 1_000_000_000 < MemoryStore.timerEnd ∧ Dated clock.wall seconds ∧
      calendarStart ≤ clock.wall)
    ⟨fun held => ⟨held.1, held.2.1, held.2.2⟩, fun held => ⟨held.timer, held.dated, held.present⟩⟩

/-- What follows from the answer of the store, at a wall clock reading. -/
def concluded (limit : Nat) (wall : Int) (told : Except Overflow Snapshot) :
    Except Interrupt (Except LimitError Decision) :=
  match told with
  | .error overflow => .error (.broken (some overflow.message))
  | .ok snapshot =>
    match Decision.ofSnapshot snapshot limit wall with
    | .ok decision => .ok (.ok decision)
    | .error (.refused error) => .ok (.error error)
    | .error (.overflowed overflow) => .error (.broken (some overflow.message))

/-- A check that nothing comes in between is counted with the reading at which it is made, and concluded
then. -/
theorem check_at_once (timeout : Nanos) (key : Key) (limit : Nat) (window : Nanos)
    (world : World MemoryStore) :
    let counted := world.store.increment world.clock.timer key.text
      (wholeSeconds window * 1_000_000_000)
    ∃ after, (checkLimit timeout key limit window).perform world =
        (concluded limit world.clock.wall counted.2, after) ∧
      after.store = counted.1 ∧ after.clock = world.clock := by
  intro counted
  let stage : Stage := ⟨.global, ⟨true, limit, window⟩, false⟩
  have inquiry : stage.inquiry key world =
      ⟨stage, key, world.clock, counted.1, .ofCount counted.2, some 0⟩ := by
    unfold Stage.inquiry
    rw [attempted]
    rfl
  have performed := check_limit_waits timeout stage key world
  simp only [Stage.patience_in_process, Stage.verdict_in_process, World.has_time_zero, if_true]
    at performed
  refine ⟨((stage.inquiry key world).made world).later 0, performed.trans ?_, ?_, rfl⟩
  · rw [inquiry]
    unfold Inquiry.answer concluded
    cases counted.2 with
    | error overflow => rfl
    | ok snapshot =>
      simp only [Reply.ofCount]
      cases Decision.ofSnapshot snapshot limit world.clock.wall with
      | ok decision => rfl
      | error failure =>
        cases failure with
        | refused error => rfl
        | overflowed overflow => rfl
  · rw [inquiry]
    rfl

/-- A check is decided by the bucket that it is counted in, as long as that bucket lives no longer than
a new one would. -/
theorem check_decided (timeout : Nanos) (key : Key) (limit : Nat) {seconds : Nat}
    (world : World MemoryStore) (positive : 1 ≤ seconds) (within : WithinClocks seconds world.clock)
    (short : ∀ bucket ∈ world.store.live? key.text world.clock.timer,
      bucket.expiresAt ≤ world.clock.timer + seconds * 1_000_000_000) :
    let bucket := Bucket.next (world.store.live? key.text world.clock.timer) world.clock.timer
      (seconds * 1_000_000_000)
    ∃ resetAt after, (checkLimit timeout key limit (seconds * 1_000_000_000)).perform world =
        (.ok (.ok ⟨decide (bucket.count ≤ limit), bucket.count, limit - bucket.count, resetAt⟩),
          after) ∧
      after.store.live? key.text world.clock.timer = some bucket ∧ after.clock = world.clock := by
  intro bucket
  obtain ⟨counted, told, live⟩ := MemoryStore.increment_next world.store key.text
    (Nat.mul_pos positive (by decide)) within.timer
  generalize left : MemoryStore.roundedSeconds (bucket.expiresAt - world.clock.timer) = rest at told
  have whole : wholeSeconds (seconds * 1_000_000_000) = seconds := by
    have exact_seconds : seconds * 1_000_000_000 / 1_000_000_000 = seconds :=
      Nat.mul_div_cancel seconds (by decide)
    exact (congrArg (max 1) exact_seconds).trans (Nat.max_eq_right positive)
  have snapshot : Snapshot.WellFormed ⟨bucket.count, rest⟩ :=
    ⟨Int.ofNat_le.mpr Bucket.next_count_pos, Int.natCast_nonneg rest⟩
  have dated : Dated world.clock.wall rest := by
    apply within.dated.sooner within.present (Int.natCast_nonneg rest)
    rw [← left]
    exact Int.ofNat_le.mpr (MemoryStore.rounded_seconds_le (Bucket.next_short short))
  have outcome : concluded limit world.clock.wall (.ok ⟨bucket.count, rest⟩) =
      .ok (.ok ⟨decide (bucket.count ≤ limit), bucket.count, limit - bucket.count,
        world.clock.wall + rest * 1_000_000_000⟩) := by
    simp only [concluded, Decision.of_snapshot_decided limit snapshot dated, Snapshot.decision,
      Int.ofNat_le, Int.toNat_natCast]
  obtain ⟨after, performed, store, clock⟩ :=
    check_at_once timeout key limit (seconds * 1_000_000_000) world
  rw [whole, told] at performed store
  refine ⟨_, after, performed.trans (congrArg (·, after) outcome), ?_, clock⟩
  rw [store]
  exact live

end Gatehouse.RateLimit
