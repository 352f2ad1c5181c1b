import Gatehouse.Proofs.RateLimit.LiveBuckets

/-!
What the store of a process holds, calls coming in any order of their readings of the timer. A call
sweeps first and puts its bucket in place afterwards, so a store of many buckets has been swept at the
reading of its last call, and a store that has not been swept is small. Main statement: behind every call
of a run the store is tidy, and the key that was called has a live bucket unless its new window would not
end on the timer.
-/
namespace Gatehouse.RateLimit.MemoryStore

/-- The keys of a store with their buckets. -/
def entries (store : MemoryStore) : List (String × Bucket) := store.buckets.toList

/-- The store behind a run of calls. -/
def after (store : MemoryStore) (calls : List Call) : MemoryStore :=
  calls.foldl (fun store call => (store.increment call.now call.key call.ttl).1) store

/-- A key has a bucket that ends after a reading of the timer. -/
def HoldsLive (store : MemoryStore) (key : String) (now : Nanos) : Prop :=
  ∃ bucket, (key, bucket) ∈ store.entries ∧ now < bucket.expiresAt

/-- What a call makes of the store it finds. -/
structure Tidies (store : MemoryStore) (call : Call) (left : MemoryStore) : Prop where
  /-- A key has one bucket at most. -/
  once : (left.entries.map Prod.fst).Nodup
  /-- Where there are many buckets, none of them is dead. -/
  bounded : left.entries.length ≤ sweepThreshold ∨
    ∀ entry ∈ left.entries, call.now < entry.2.expiresAt
  /-- The sweep drops nothing that is live. -/
  spared : ∀ entry ∈ store.entries, call.now < entry.2.expiresAt →
    entry ∈ (store.sweep call.now).entries
  /-- Of the other keys all that is live stays. -/
  kept : ∀ entry ∈ store.entries, entry.1 ≠ call.key → call.now < entry.2.expiresAt →
    entry ∈ left.entries
  /-- The other keys get no bucket that they did not have. -/
  unadded : ∀ entry ∈ left.entries, entry.1 ≠ call.key → entry ∈ store.entries

variable {store : MemoryStore} {now ttl : Nanos} {key : String} {bucket : Bucket}

/-! ## Entries -/

theorem mem_entries_iff {entry : String × Bucket} :
    entry ∈ store.entries ↔ store.buckets.get? entry.1 = some entry.2 :=
  Std.HashMap.mem_toList_iff_getElem?_eq_some

theorem entries_length (store : MemoryStore) : store.entries.length = store.buckets.size :=
  Std.HashMap.length_toList

theorem entries_once (store : MemoryStore) : (store.entries.map Prod.fst).Nodup := by
  refine List.pairwise_map.mpr (Std.HashMap.distinct_keys_toList.imp fun distinct => ?_)
  exact beq_eq_false_iff_ne.mp distinct

theorem holds_live_iff : store.HoldsLive key now ↔ (store.live? key now).isSome := by
  simp only [HoldsLive, mem_entries_iff, live?, Option.isSome_filter, Option.any_eq_true,
    Bucket.isLive, decide_eq_true_iff]

/-! ## The sweep -/

/-- A sweep leaves fewer buckets than the threshold, or none that is dead. -/
theorem swept_bounded (store : MemoryStore) (now : Nanos) :
    (store.sweep now).buckets.size < sweepThreshold ∨
      ∀ key bucket, (store.sweep now).buckets.get? key = some bucket → bucket.isLive now := by
  unfold sweep
  split
  case isTrue many =>
    right
    intro key bucket held
    rw [Std.HashMap.get?_eq_getElem?, Std.HashMap.getElem?_filter'] at held
    exact (Option.filter_eq_some_iff.mp held).2
  case isFalse few =>
    left
    exact Nat.not_le.mp few

/-! ## One call -/

/-- A call adds one bucket at most to those that the sweep has left. -/
theorem increment_bounded (store : MemoryStore) (key : String) (positive : 0 < ttl) :
    (store.increment now key ttl).1.buckets.size ≤ sweepThreshold ∨
      ∀ other bucket, (store.increment now key ttl).1.buckets.get? other = some bucket →
        bucket.isLive now := by
  rw [increment_joined]
  cases counted : joined (store.live? key now) now ttl with
  | error overflow => exact (swept_bounded store now).imp_left Nat.le_of_lt
  | ok own =>
    rcases swept_bounded store now with few | allLive
    · left
      exact Std.HashMap.size_insert_le.trans few
    · right
      intro other bucket held
      rw [Std.HashMap.get?_eq_getElem?, Std.HashMap.getElem?_insert] at held
      split at held
      · cases held
        exact joined_isLive positive counted
      · exact allLive other bucket held

/-- Every store is tidied by a call, whatever it holds. -/
theorem increment_tidies (store : MemoryStore) (call : Call) (positive : 0 < call.ttl) :
    store.Tidies call (store.increment call.now call.key call.ttl).1 where
  once := entries_once _
  bounded := by
    rw [entries_length]
    refine (increment_bounded store call.key positive).imp_right fun allLive entry member => ?_
    exact of_decide_eq_true (allLive entry.1 entry.2 (mem_entries_iff.mp member))
  spared := fun entry member isLive =>
    mem_entries_iff.mpr ((sweep_spares store call.now entry.1).kept (mem_entries_iff.mp member)
      (decide_eq_true isLive))
  kept := fun entry member different isLive =>
    mem_entries_iff.mpr (bucket_kept different (mem_entries_iff.mp member) (decide_eq_true isLive))
  unadded := fun entry member different =>
    mem_entries_iff.mpr ((other_spares store call.now call.ttl different).held
      (mem_entries_iff.mp member))

/-- The key that is called has a live bucket behind the call if it had one before, and otherwise if a
new window ends on the timer. -/
theorem increment_holds_own (store : MemoryStore) (call : Call) (positive : 0 < call.ttl) :
    (store.increment call.now call.key call.ttl).1.HoldsLive call.key call.now ↔
      store.HoldsLive call.key call.now ∨ call.now + call.ttl < timerEnd := by
  rw [holds_live_iff, holds_live_iff, live_after_own positive]
  unfold joined
  cases live : store.live? call.key call.now with
  | some bucket => simp [Except.toOption]
  | none =>
    by_cases fits : call.now + call.ttl < timerEnd
    · simp [Except.toOption, fits, Nat.not_le.mpr fits]
    · simp [Except.toOption, fits, Nat.not_lt.mp fits]

/-! ## A run of calls -/

theorem after_append (store : MemoryStore) (before : List Call) (call : Call) :
    store.after (before ++ [call]) =
      ((store.after before).increment call.now call.key call.ttl).1 := by
  simp [after, List.foldl_append]

/-- Behind every call of a run that starts with the empty store, the store is tidy: one bucket a key, and
either few buckets or no dead one, where the sweep has dropped nothing live. The key that was called has
a live bucket exactly if it had one before or a new window ends on the timer. -/
theorem run_tidies (before : List Call) (call : Call) (positive : 0 < call.ttl) :
    (empty.after before).Tidies call (empty.after (before ++ [call])) ∧
      ((empty.after (before ++ [call])).HoldsLive call.key call.now ↔
        (empty.after before).HoldsLive call.key call.now ∨ call.now + call.ttl < timerEnd) := by
  rw [after_append]
  exact ⟨increment_tidies _ call positive, increment_holds_own _ call positive⟩

/-- A reading that goes back: the bucket of the first call, live at it, is dead at the reading of the
second. -/
theorem run_tidies_back :
    let before : List Call := [⟨0, "a", 25⟩, ⟨30, "b", 10⟩]
    let call : Call := ⟨20, "a", 7⟩
    0 < call.ttl ∧
      (empty.after before).Tidies call (empty.after (before ++ [call])) ∧
      (empty.after (before ++ [call])).HoldsLive "a" 20 := by
  intro before call
  have positive : 0 < call.ttl := by decide
  obtain ⟨tidies, own⟩ := run_tidies before call positive
  exact ⟨positive, tidies, own.mpr (.inr (by decide))⟩

/-- A window that would reach the end of the timer leaves no bucket. -/
theorem no_bucket_past_timer :
    let call : Call := ⟨1_000_000_000, "k", 9223372036854775807 * 1_000_000_000⟩
    0 < call.ttl ∧ ¬ (empty.after [call]).HoldsLive call.key call.now := by
  intro call
  have positive : 0 < call.ttl := by decide
  refine ⟨positive, fun holds => ?_⟩
  rcases (increment_holds_own empty call positive).mp holds with held | fits
  · rw [holds_live_iff, live_empty] at held
    cases held
  · exact absurd fits (by decide)

end Gatehouse.RateLimit.MemoryStore
