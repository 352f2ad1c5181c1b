import Gatehouse.Proofs.RateLimit.StoreWindows

/-! Calls on the store of a process, told by the live buckets alone. A call is counted in the live bucket
of its key or in a new one, and what it is told follows from that bucket. Of the other keys it drops only
what is dead at its reading of the timer. -/
namespace Gatehouse.RateLimit

/-- What a call is told that is counted in a bucket. -/
def Bucket.snapshot (bucket : Bucket) (now : Nanos) : Snapshot :=
  ⟨bucket.count, MemoryStore.roundedSeconds (bucket.expiresAt - now)⟩

namespace MemoryStore

/-- The bucket that a call is counted in, by the live bucket of its key. A new one has to end on the
timer. -/
def joined (live : Option Bucket) (now ttl : Nanos) : Except Overflow Bucket :=
  match live with
  | some bucket => .ok ⟨bucket.count + 1, bucket.expiresAt⟩
  | none => if timerEnd ≤ now + ttl then .error .timer else .ok ⟨1, now + ttl⟩

variable {store : MemoryStore} {now ttl : Nanos} {key other : String}

theorem live_swept :
    ((store.sweep now).buckets.get? key).filter (·.isLive now) = store.live? key now :=
  live_after_sweep

theorem live_isLive : ∀ bucket ∈ store.live? key now, bucket.isLive now := by
  intro bucket counted
  exact (Option.filter_eq_some_iff.mp counted).2

/-- A call puts the bucket that it joins in place, or fails and leaves the swept store. -/
theorem increment_joined (store : MemoryStore) (now : Nanos) (key : String) (ttl : Nanos) :
    store.increment now key ttl =
      match joined (store.live? key now) now ttl with
      | .ok bucket =>
        (⟨(store.sweep now).buckets.insert key bucket⟩, .ok (bucket.snapshot now))
      | .error overflow => (store.sweep now, .error overflow) := by
  have next : (store.sweep now).nextBucket now key ttl = joined (store.live? key now) now ttl := by
    unfold nextBucket
    rw [live_swept]
    rfl
  unfold increment
  simp only [next]
  rfl

/-- What a call is told is a matter of the live bucket of its key. -/
theorem increment_told (store : MemoryStore) (now : Nanos) (key : String) (ttl : Nanos) :
    (store.increment now key ttl).2 =
      (joined (store.live? key now) now ttl).map (·.snapshot now) := by
  rw [increment_joined]
  cases joined (store.live? key now) now ttl with
  | ok bucket => rfl
  | error overflow => rfl

theorem bucket_after_own {bucket : Bucket}
    (counted : joined (store.live? key now) now ttl = .ok bucket) :
    (store.increment now key ttl).1.buckets.get? key = some bucket := by
  rw [increment_joined, counted]
  simp

/-- The bucket that a call is counted in is live at its reading. -/
theorem joined_isLive {bucket : Bucket} (positive : 0 < ttl)
    (counted : joined (store.live? key now) now ttl = .ok bucket) : bucket.isLive now := by
  unfold joined at counted
  cases live : store.live? key now with
  | some old =>
    rw [live] at counted
    cases counted
    exact live_isLive old live
  | none =>
    rw [live] at counted
    by_cases beyond : timerEnd ≤ now + ttl
    · simp only [beyond, if_true] at counted
      cases counted
    · simp only [beyond, if_false] at counted
      cases counted
      exact decide_eq_true (Nat.lt_add_of_pos_right positive)

/-- Behind a call the bucket that it was counted in is the live one of its key. -/
theorem live_after_own (positive : 0 < ttl) :
    (store.increment now key ttl).1.live? key now =
      (joined (store.live? key now) now ttl).toOption := by
  cases counted : joined (store.live? key now) now ttl with
  | ok bucket =>
    unfold live?
    rw [bucket_after_own counted, Option.filter_some, if_pos (joined_isLive positive counted)]
    rfl
  | error overflow =>
    rw [increment_joined, counted]
    have none_live : store.live? key now = none := by
      cases live : store.live? key now with
      | none => rfl
      | some old =>
        rw [live] at counted
        cases counted
    exact live_swept.trans none_live

/-- A call on another key does not touch the live bucket of a key. -/
theorem live_after_other (different : key ≠ other) :
    (store.increment now other ttl).1.live? key now = store.live? key now := by
  rw [increment_joined]
  cases joined (store.live? other now) now ttl with
  | ok bucket => exact (live_inserted_other bucket different).trans live_after_sweep
  | error overflow => exact live_after_sweep

/-- A bucket stays in its place, or is dropped because it is dead. -/
def Spares (now : Nanos) (before left : Option Bucket) : Prop :=
  left = before ∨ left = before.filter (·.isLive now)

namespace Spares

variable {before left : Option Bucket} {bucket : Bucket}

theorem held (spares : Spares now before left) (found : left = some bucket) :
    before = some bucket := by
  rcases spares with same | swept
  · rw [← same, found]
  · rw [swept] at found
    exact (Option.filter_eq_some_iff.mp found).1

theorem kept (spares : Spares now before left) (found : before = some bucket)
    (isLive : bucket.isLive now) : left = some bucket := by
  rcases spares with same | swept
  · rw [same, found]
  · rw [swept, found, Option.filter_some, if_pos isLive]

end Spares

theorem sweep_spares (store : MemoryStore) (now : Nanos) (key : String) :
    Spares now (store.buckets.get? key) ((store.sweep now).buckets.get? key) := by
  unfold sweep
  split
  · right
    simp
  · left
    rfl

/-- A call does no more to the bucket of another key than its sweep does. -/
theorem other_spares (store : MemoryStore) (now ttl : Nanos) (different : key ≠ other) :
    Spares now (store.buckets.get? key) ((store.increment now other ttl).1.buckets.get? key) := by
  have kept : (store.increment now other ttl).1.buckets.get? key =
      (store.sweep now).buckets.get? key := by
    rw [increment_joined]
    cases joined (store.live? other now) now ttl with
    | ok bucket => simp [Std.HashMap.getElem?_insert, Ne.symm different]
    | error overflow => rfl
  rw [kept]
  exact sweep_spares store now key

/-- A bucket that is live when another key is called stays. -/
theorem bucket_kept {bucket : Bucket} (different : key ≠ other)
    (held : store.buckets.get? key = some bucket) (isLive : bucket.isLive now) :
    (store.increment now other ttl).1.buckets.get? key = some bucket :=
  (other_spares store now ttl different).kept held isLive

/-- A call on another key brings no bucket to life, at whatever reading of the timer. -/
theorem dead_kept {timer : Nanos} (different : key ≠ other)
    (dead : store.live? key timer = none) :
    (store.increment now other ttl).1.live? key timer = none := by
  refine Option.filter_eq_none_iff.mpr fun bucket found => ?_
  have before := (other_spares store now ttl different).held found
  exact Option.filter_eq_none_iff.mp dead bucket before

end MemoryStore
end Gatehouse.RateLimit
