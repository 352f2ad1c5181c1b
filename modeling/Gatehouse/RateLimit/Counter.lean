import Gatehouse.RateLimit.Decision

/-!
Counter stores. A store answers one increment at a time, perhaps only after a while, perhaps never.
-/
namespace Gatehouse.RateLimit

/-- How an increment ends: a snapshot, an error, or a breakdown of the store, which carries a text
or nothing that could be shown. -/
inductive Reply where
  | snapshot (snapshot : Snapshot)
  | failed (error : LimitError)
  | broken (payload : Option String)
  deriving DecidableEq, Repr

/-- One increment under way: the store afterwards, the reply, and how long it takes; no duration
means that it never comes. -/
structure Attempt (σ : Type) where
  store : σ
  reply : Reply
  delay : Option Nanos

/-- A store of counters. `increment store now key ttl` counts one request on `key`, whose window
lasts `ttl` seconds if this request opens it; `now` is the timer. -/
class CounterStore (σ : Type) where
  increment : σ → Nanos → String → Nat → Attempt σ

end Gatehouse.RateLimit
