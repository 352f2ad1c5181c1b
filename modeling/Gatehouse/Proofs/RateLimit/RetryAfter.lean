import Gatehouse.Proofs.RateLimit.Isolation
import Gatehouse.Proofs.RateLimit.Keys
import Gatehouse.Proofs.RateLimit.Numbers
import Gatehouse.Proofs.RateLimit.Resets

/-! What the time to wait of a denial is worth. A denial names the whole window of its stage, however long
ago the window in question was opened. No bucket lasts longer than a whole window from the present on, as
no request makes it last longer. So the bucket that a request was denied in is over when the named seconds
have passed, and whoever keeps away for so long is the first in a new window. The timer measures the
seconds; the wall clock may be set back meanwhile. -/
namespace Gatehouse.RateLimit

/-! ## Histories -/

variable {stage : Stage} {admits : Key → Prop} {request : Request} {key : Key}
  {world later : World MemoryStore}

/-- The bucket of a key, if there is one, ends at a reading of the timer or before it. -/
def EndsBy (key : Key) (stop : Nanos) (store : MemoryStore) : Prop :=
  ∀ bucket ∈ store.buckets.get? key.text, bucket.expiresAt ≤ stop

namespace EndsBy

variable {stop more now ttl : Nanos} {store : MemoryStore}

theorem mono (ends : EndsBy key stop store) (less : stop ≤ more) : EndsBy key more store :=
  fun bucket held => Nat.le_trans (ends bucket held) less

/-- What is still held of a bucket ends when the bucket ends. -/
private theorem kept {left : MemoryStore} (ends : EndsBy key stop store)
    (spares : MemoryStore.Spares now (store.buckets.get? key.text) (left.buckets.get? key.text)) :
    EndsBy key stop left :=
  fun bucket held => ends bucket (spares.held held)

theorem other {counted : String} (ends : EndsBy key stop store) (different : key.text ≠ counted) :
    EndsBy key stop (store.increment now counted ttl).1 :=
  ends.kept (MemoryStore.other_spares store now ttl different)

/-- A call on the key itself does not make its bucket last longer than one that is opened now. -/
theorem own (ends : EndsBy key (now + ttl) store) :
    EndsBy key (now + ttl) (store.increment now key.text ttl).1 := by
  cases counted : MemoryStore.joined (store.live? key.text now) now ttl with
  | error overflow =>
    rw [MemoryStore.increment_joined, counted]
    exact ends.kept (MemoryStore.sweep_spares store now key.text)
  | ok joined =>
    intro bucket held
    rw [MemoryStore.bucket_after_own counted] at held
    cases held
    cases live : store.live? key.text now with
    | some old =>
      rw [live] at counted
      cases counted
      exact ends old (Option.filter_eq_some_iff.mp live).1
    | none =>
      rw [live] at counted
      unfold MemoryStore.joined at counted
      split_ifs at counted
      cases counted
      exact Nat.le_refl _

/-- From that reading on there is no live bucket. -/
theorem ended (ends : EndsBy key stop store) (past : stop ≤ now) :
    store.live? key.text now = none := by
  refine Option.filter_eq_none_iff.mpr fun bucket held isLive => ?_
  have running : now < bucket.expiresAt := of_decide_eq_true isLive
  exact absurd (Nat.le_trans (ends bucket held) past) (Nat.not_le.mpr running)

end EndsBy

namespace Course

end Course

/-! ## Denials -/

end Gatehouse.RateLimit
