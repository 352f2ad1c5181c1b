import Gatehouse.RateLimit.Counter
import Std.Data.HashMap

/-!
The store of a single process: one bucket a key, and a sweep of dead buckets once there are many.
-/
namespace Gatehouse.RateLimit

/-- A window of one key: the requests seen, and the timer reading at which it is over. -/
structure Bucket where
  count : Nat
  expiresAt : Nanos
  deriving DecidableEq, Repr

/-- A bucket counts strictly before its end. -/
def Bucket.isLive (bucket : Bucket) (now : Nanos) : Bool := now < bucket.expiresAt

structure MemoryStore where
  buckets : Std.HashMap String Bucket

namespace MemoryStore

def empty : MemoryStore := ⟨∅⟩

/-- The number of buckets from which on every call sweeps first. -/
def sweepThreshold : Nat := 10000

/-- The first reading that the timer cannot hold: it has a signed 64-bit number of seconds and the
nanoseconds behind them. -/
def timerEnd : Nanos := 9223372036854775808 * 1_000_000_000

/-- Drops dead buckets where there are many buckets. -/
def sweep (store : MemoryStore) (now : Nanos) : MemoryStore :=
  if sweepThreshold ≤ store.buckets.size then
    ⟨store.buckets.filter fun _ bucket => bucket.isLive now⟩
  else store

/-- The bucket a request is counted in: the live one with one more, or else a new one. -/
def nextBucket (store : MemoryStore) (now : Nanos) (key : String) (ttl : Nanos) :
    Except Overflow Bucket :=
  match (store.buckets.get? key).filter (·.isLive now) with
  | some bucket => .ok { bucket with count := bucket.count + 1 }
  | none => if timerEnd ≤ now + ttl then .error .timer else .ok ⟨1, now + ttl⟩

/-- Whole seconds of a span, a half rounded up. What is below a millisecond is dropped first. -/
def roundedSeconds (span : Nanos) : Nat := (span / 1_000_000 + 500) / 1000

/-- Counts one request. The store is swept first, also where the new window would not fit the
timer. -/
def increment (store : MemoryStore) (now : Nanos) (key : String) (ttl : Nanos) :
    MemoryStore × Except Overflow Snapshot :=
  let swept := store.sweep now
  match swept.nextBucket now key ttl with
  | .ok bucket =>
    (⟨swept.buckets.insert key bucket⟩,
      .ok ⟨bucket.count, roundedSeconds (bucket.expiresAt - now)⟩)
  | .error overflow => (swept, .error overflow)

end MemoryStore

/-- An increment of the in-process store is done at once. -/
instance : CounterStore MemoryStore where
  increment store now key ttl :=
    match store.increment now key (ttl * 1_000_000_000) with
    | (store, .ok snapshot) => ⟨store, .snapshot snapshot, some 0⟩
    | (store, .error overflow) => ⟨store, .broken (some overflow.message), some 0⟩

end Gatehouse.RateLimit
