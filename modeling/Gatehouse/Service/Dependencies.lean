import Gatehouse.RateLimit.Memory
import Gatehouse.RateLimit.Prepared
import Gatehouse.Service.World

/-!
What the service leans on besides the counter store, and whether it is well: the database and Redis.
-/
namespace Gatehouse

/-- A probe under way: how long it takes, if it ever ends, and how it ends. -/
structure Probe where
  delay : Option Nanos
  result : Except String Unit

/-- Where a world keeps its dependencies. A dependency that is not configured has no probe. -/
class Dependencies (σ : Type) where
  probeDatabase : σ → Option Probe × σ
  probeRedis : σ → Option Probe × σ

/-- A counter store alone brings no dependencies. -/
instance : Dependencies RateLimit.MemoryStore := ⟨fun s => (none, s), fun s => (none, s)⟩

instance : Dependencies RateLimit.PreparedStore := ⟨fun s => (none, s), fun s => (none, s)⟩

namespace Health

/-- How long a probe may take. -/
def probeTimeout : Nanos := 5_000_000_000

/-- The end of a probe: after how long, whether the dependency is well, and what the log gets. -/
structure Finding where
  after : Nanos
  healthy : Bool
  events : List Event

/-- What a probe of a named dependency comes to. One that ends with the timeout still counts. -/
def finding (name : String) : Option Probe → Finding
  | none => ⟨0, false, [⟨.debug, name ++ " not configured, reporting unhealthy", []⟩]⟩
  | some probe =>
    match probe.delay.filter (· ≤ probeTimeout) with
    | none => ⟨probeTimeout, false, [⟨.error, name ++ " health check timed out", []⟩]⟩
    | some delay =>
      match probe.result with
      | .ok () => ⟨delay, true, []⟩
      | .error reason =>
        ⟨delay, false, [⟨.error, name ++ " health check failed", [("error", reason)]⟩]⟩

variable {σ : Type} [Dependencies σ]

/-- Probes both dependencies side by side; the one that ends first is logged first. -/
def check : Run σ (Bool × Bool) := do
  let w ← get
  let (database, store) := Dependencies.probeDatabase w.store
  let (redis, store) := Dependencies.probeRedis store
  set { w with store }
  let database := finding "Database" database
  let redis := finding "Redis" redis
  let (first, second) :=
    if redis.after < database.after then (redis, database) else (database, redis)
  Run.wait first.after
  Run.logAll first.events
  Run.wait (second.after - first.after)
  Run.logAll second.events
  return (database.healthy, redis.healthy)

end Health
end Gatehouse
