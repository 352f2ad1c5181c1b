import Gatehouse.Proofs.RateLimit.Windows

/-!
The store of a process against the windows of its history. The store keeps one bucket a key,
replaces it when it is dead and sweeps in bulk; its live buckets are the open windows all the same.
So it answers every run of calls as the windows do, and the end of the timer is the only thing that
keeps it from answering as windows without bounds would.
-/
namespace Gatehouse.RateLimit

namespace MemoryStore

/-- The answers of a store to a run of calls. -/
def answers : MemoryStore → List Call → List (Except Overflow Snapshot)
  | _, [] => []
  | store, call :: rest =>
    let (store, answer) := store.increment call.now call.key call.ttl
    answer :: answers store rest

/-- The bucket of a key, as long as it is live. -/
def live? (store : MemoryStore) (key : String) (now : Nanos) : Option Bucket :=
  (store.buckets.get? key).filter (·.isLive now)

/-- The live buckets are those of the open windows and hold their numbers of calls. -/
def Mirrors (store : MemoryStore) (history : History) (now : Nanos) : Prop :=
  ∀ key, store.live? key now =
    (history.openWindow? key now).map fun window => ⟨history.count window, window.stop⟩

variable {store : MemoryStore} {history : History} {now later : Nanos} {key : String}

/-! ## Live buckets -/

theorem live_empty : live? .empty key now = none := by
  simp [live?, empty]

/-- A sweep drops dead buckets only. -/
theorem live_after_sweep : (store.sweep now).live? key now = store.live? key now := by
  unfold sweep live?
  split
  · simp only [Std.HashMap.get?_eq_getElem?, Std.HashMap.getElem?_filter', Option.filter_filter,
      Bool.and_self]
  · rfl

theorem live_inserted (bucket : Bucket) (isLive : bucket.isLive now) :
    live? ⟨store.buckets.insert key bucket⟩ key now = some bucket := by
  simp [live?, Option.filter_some, isLive]

theorem live_inserted_other {other : String} (bucket : Bucket) (different : other ≠ key) :
    live? ⟨store.buckets.insert key bucket⟩ other now = store.live? other now := by
  simp [live?, Std.HashMap.getElem?_insert, Ne.symm different]

/-- As time passes live buckets die, and no other bucket comes to life. -/
theorem live_later (earlier : now ≤ later) :
    store.live? key later = (store.live? key now).filter (·.isLive later) := by
  unfold live?
  rw [Option.filter_filter]
  congr 1
  funext bucket
  have still : bucket.isLive later = true → bucket.isLive now = true := fun h =>
    decide_eq_true (Nat.lt_of_le_of_lt earlier (of_decide_eq_true h))
  grind

/-! ## One call -/

theorem mirrors_empty (now : Nanos) : Mirrors .empty [] now := fun _ => live_empty

theorem mirrors_later (separate : history.Separate now) (mirrors : store.Mirrors history now)
    (earlier : now ≤ later) : store.Mirrors history later := by
  intro key
  rw [live_later earlier, mirrors key, History.open_window_later separate earlier]
  cases history.openWindow? key now with
  | none => rfl
  | some window =>
    simp only [Option.map_some, Option.filter_some, Bucket.isLive, Window.isOpen]
    split <;> rfl

/-- A half second is a whole number of milliseconds, so what is dropped below one never decides how
a span is rounded. -/
theorem rounded_seconds_eq (span : Nat) :
    roundedSeconds span = (span + 500_000_000) / 1_000_000_000 := by
  unfold roundedSeconds
  omega

/-- Seconds until the end of a window, a half rounded up, are those of the nearest grid point. -/
theorem rounded_seconds (stop now : Nat) (open_still : now ≤ stop) :
    (roundedSeconds (stop - now) : Int) = round (((stop : ℚ) - now) / 1_000_000_000) := by
  have halves : ((stop : ℚ) - now) / 1_000_000_000 + 1 / 2 =
      ((stop - now + 500_000_000 : ℕ) : ℚ) / (1_000_000_000 : ℕ) := by
    push_cast [open_still]
    ring
  rw [rounded_seconds_eq, round_eq, halves, Rat.floor_natCast_div_natCast]
  rfl

/-- What the bucket of a window tells is what the window tells. -/
theorem snapshot_of_window {window : Window} (isOpen : window.isOpen now) :
    (⟨(history.count window + 1 : ℕ), roundedSeconds (window.stop - now)⟩ : Snapshot) =
      history.snapshot window now := by
  have before := Nat.le_of_lt (Window.isOpen_iff.mp isOpen)
  rw [History.snapshot, rounded_seconds _ _ before]
  simp [Int.add_comm]

/-- A bucket put in place mirrors the window the call is counted in; other keys keep theirs. -/
theorem mirrors_inserted {call : Call} (positive : 0 < call.ttl)
    (mirrors : store.Mirrors history call.now) :
    Mirrors ⟨store.buckets.insert call.key
        ⟨history.count (history.windowFor call) + 1, (history.windowFor call).stop⟩⟩
      (history.windowFor call :: history) call.now := by
  obtain ⟨same, isOpen⟩ := History.window_for_open history positive
  intro key
  by_cases own : key = call.key
  · subst own
    rw [History.open_window_counted positive, Option.map_some, List.count_cons_self]
    exact live_inserted _ (decide_eq_true (Window.isOpen_iff.mp isOpen))
  · rw [live_inserted_other _ own, mirrors key, History.open_window_other positive own]
    cases found : history.openWindow? key call.now with
    | none => rfl
    | some window =>
      have elsewhere : window.key ≠ call.key := (History.open_window_found found).2.1.trans_ne own
      simp only [Option.map_some, History.count_other positive elsewhere]

theorem mirrors_swept (mirrors : store.Mirrors history now) :
    (store.sweep now).Mirrors history now := fun key => live_after_sweep.trans (mirrors key)

/-- Which bucket a call is counted in: the one of its window, unless that window is new and would
not end on the timer. -/
theorem next_bucket_of_window {call : Call} (positive : 0 < call.ttl)
    (mirrors : store.Mirrors history call.now) :
    store.nextBucket call.now call.key call.ttl =
      if (history.openWindow? call.key call.now).isSome ||
          (history.windowFor call).endsOnTimer then
        .ok ⟨history.count (history.windowFor call) + 1, (history.windowFor call).stop⟩
      else .error .timer := by
  have live : (store.buckets.get? call.key).filter (·.isLive call.now) = _ := mirrors call.key
  unfold nextBucket History.windowFor
  rw [live]
  cases found : history.openWindow? call.key call.now with
  | some window => simp
  | none =>
    have unused := History.count_opened found positive
    by_cases fits : call.now + call.ttl < timerEnd
    · have outside : ¬ timerEnd ≤ call.now + call.ttl := Nat.not_le.mpr fits
      simp [Window.endsOnTimer, Window.stop, Window.opened, fits, outside] at unused ⊢
      exact unused
    · have outside : timerEnd ≤ call.now + call.ttl := Nat.not_lt.mp fits
      simp [Window.endsOnTimer, Window.stop, Window.opened, fits, outside]

/-- A call that has a window gets the snapshot of that window and is counted in it. -/
theorem increment_counts {call : Call} (positive : 0 < call.ttl)
    (mirrors : store.Mirrors history call.now)
    (counted : (history.openWindow? call.key call.now).isSome ||
      (history.windowFor call).endsOnTimer) :
    ∃ after, store.increment call.now call.key call.ttl =
        (after, .ok (history.snapshot (history.windowFor call) call.now)) ∧
      after.Mirrors (history.windowFor call :: history) call.now := by
  have swept := mirrors_swept mirrors
  have bucket := next_bucket_of_window positive swept
  rw [if_pos counted] at bucket
  refine ⟨_, ?_, mirrors_inserted positive swept⟩
  unfold increment
  simp only [bucket, snapshot_of_window (History.window_for_open history positive).2]

/-- A call whose window would not end on the timer fails, and no call is forgotten for it. -/
theorem increment_overflows {call : Call} (positive : 0 < call.ttl)
    (mirrors : store.Mirrors history call.now)
    (refused : ¬ ((history.openWindow? call.key call.now).isSome ||
      (history.windowFor call).endsOnTimer)) :
    ∃ after, store.increment call.now call.key call.ttl = (after, .error .timer) ∧
      after.Mirrors history call.now := by
  have swept := mirrors_swept mirrors
  have bucket := next_bucket_of_window positive swept
  rw [if_neg refused] at bucket
  refine ⟨_, ?_, swept⟩
  unfold increment
  simp only [bucket]

/-! ## A run of calls -/

/-- A store that mirrors a history answers every later run of calls as the windows do. The buckets
that are dead or swept never enter: both sides only see what is open at the time of the call. -/
theorem answers_of_windows (calls : List Call) (separate : history.Separate now)
    (mirrors : store.Mirrors history now) (later : ∀ call ∈ calls, now ≤ call.now)
    (ordered : calls.Pairwise fun call next => call.now ≤ next.now)
    (positive : ∀ call ∈ calls, 0 < call.ttl) :
    store.answers calls = history.answers Window.endsOnTimer calls := by
  induction calls generalizing store history now with
  | nil => rfl
  | cons call rest ih =>
    obtain ⟨restLater, restOrdered⟩ := List.pairwise_cons.mp ordered
    obtain ⟨callPositive, restPositive⟩ := List.forall_mem_cons.mp positive
    have separateNow := History.separate_later separate (later call List.mem_cons_self)
    have mirrorsNow := mirrors_later separate mirrors (later call List.mem_cons_self)
    unfold answers History.answers
    by_cases counted : (history.openWindow? call.key call.now).isSome ||
        (history.windowFor call).endsOnTimer
    · obtain ⟨after, answered, still⟩ := increment_counts callPositive mirrorsNow counted
      simp only [answered, if_pos counted]
      rw [ih (History.separate_counted separateNow) still restLater restOrdered restPositive]
    · obtain ⟨after, answered, still⟩ := increment_overflows callPositive mirrorsNow counted
      simp only [answered, if_neg counted]
      rw [ih separateNow still restLater restOrdered restPositive]

/-- From the empty store on, every run of calls is answered as the windows of its history say, where
a call fails exactly if its window would not end on the timer. So the store answers as windows
without bounds do exactly if every window of the run ends on the timer. -/
theorem empty_store_answers (calls : List Call)
    (ordered : calls.Pairwise fun call next => call.now ≤ next.now)
    (positive : ∀ call ∈ calls, 0 < call.ttl) :
    empty.answers calls = History.answers Window.endsOnTimer [] calls ∧
      (empty.answers calls = History.answers (fun _ => true) [] calls ↔
        ∀ window ∈ History.after [] calls, window.endsOnTimer) := by
  have refined : empty.answers calls = History.answers Window.endsOnTimer [] calls :=
    answers_of_windows calls History.separate_empty (mirrors_empty 0)
      (fun call _ => Nat.zero_le call.now) ordered positive
  refine ⟨refined, ?_⟩
  rw [refined]
  exact History.answers_unbounded_iff calls (fun _ member => absurd member List.not_mem_nil)

/-- Lifetimes that differ from call to call: the third call comes within the first window and does not
move its end, and the fourth comes exactly at that end. -/
theorem empty_store_answers_mixed :
    let calls : List Call := [⟨0, "a", 1_000_000_000⟩, ⟨500_000_000, "b", 499_999_999⟩,
      ⟨999_999_999, "a", 5⟩, ⟨1_000_000_000, "a", 2_500_000_000⟩]
    calls.Pairwise (fun call next => call.now ≤ next.now) ∧ (∀ call ∈ calls, 0 < call.ttl) ∧
      empty.answers calls = [.ok ⟨1, 1⟩, .ok ⟨1, 0⟩, .ok ⟨2, 0⟩, .ok ⟨1, 3⟩] ∧
      empty.answers calls = History.answers (fun _ => true) [] calls := by
  intro calls
  have ordered : calls.Pairwise fun call next => call.now ≤ next.now := by decide
  have positive : ∀ call ∈ calls, 0 < call.ttl := by decide
  obtain ⟨refined, unbounded⟩ := empty_store_answers calls ordered positive
  exact ⟨ordered, positive, refined.trans (by decide +kernel), unbounded.mpr (by decide)⟩

/-- A window that would reach the end of the timer gets no snapshot. -/
theorem answers_past_timer :
    let call : Call := ⟨1_000_000_000, "k", 9223372036854775807 * 1_000_000_000⟩
    empty.answers [call] = [.error .timer] ∧
      empty.answers [call] ≠ History.answers (fun _ => true) [] [call] := by
  intro call
  have beyond : timerEnd ≤ call.now + call.ttl := by decide
  have broken : empty.answers [call] = [.error .timer] := by
    simp [answers, increment, nextBucket, sweep, sweepThreshold, empty, beyond]
  refine ⟨broken, ?_⟩
  rw [broken]
  simp [History.answers]

end MemoryStore
end Gatehouse.RateLimit
