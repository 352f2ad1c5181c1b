import Gatehouse.Database.Pool
import Gatehouse.RateLimit.Memory
import Gatehouse.Redis.Counters
import Gatehouse.Service.Dependencies

/-!
Counters and dependencies together. The counters are kept in the process, in Redis or in the
database; whatever keeps them is there, the other dependencies need not be.
-/
namespace Gatehouse

inductive Backends (τ : Type) where
  | memory (store : RateLimit.MemoryStore) (redis : Option τ) (database : Option Database.Pool)
  | redis (connection : τ) (database : Option Database.Pool)
  | postgres (pool : Database.Pool) (redis : Option τ)

namespace Backends

variable {τ : Type}

/-- The database, where there is one. -/
def database? : Backends τ → Option Database.Pool
  | memory _ _ database => database
  | redis _ database => database
  | postgres pool _ => some pool

/-- The connection to Redis, where there is one. -/
def redis? : Backends τ → Option τ
  | memory _ connection _ => connection
  | redis connection _ => some connection
  | postgres _ connection => connection

/-- Changes the connection to Redis, where there is one. -/
def mapRedis (change : τ → τ) : Backends τ → Backends τ
  | memory store connection database => memory store (connection.map change) database
  | redis connection database => redis (change connection) database
  | postgres pool connection => postgres pool (connection.map change)

end Backends

open RateLimit

variable {τ : Type}

/-- Moves an attempt into a larger store. -/
def RateLimit.Attempt.within {σ ρ : Type} (attempt : Attempt σ) (place : σ → ρ) : Attempt ρ :=
  ⟨place attempt.store, attempt.reply, attempt.delay⟩

instance [CounterStore τ] : CounterStore (Backends τ) where
  increment backends now key seconds :=
    match backends with
    | .memory store redis database =>
      (CounterStore.increment store now key seconds).within (.memory · redis database)
    | .redis connection database =>
      (CounterStore.increment connection now key seconds).within (.redis · database)
    | .postgres pool redis =>
      (CounterStore.increment pool now key seconds).within (.postgres · redis)

/-- Redis answers a probe at once or never. -/
def Redis.probe [Redis.Transport τ] (connection : τ) : Probe × τ :=
  match Redis.ping connection with
  | (none, connection) => (⟨none, .ok ()⟩, connection)
  | (some (.ok ()), connection) => (⟨some 0, .ok ()⟩, connection)
  | (some (.error failure), connection) => (⟨some 0, .error failure.message⟩, connection)

/-- A probe of the database is a statement like any other. -/
def Database.Pool.probe (pool : Database.Pool) : Probe :=
  ⟨some pool.attempt.2, .error pool.attempt.1.message⟩

instance [Redis.Transport τ] : Dependencies (Backends τ) where
  probeDatabase backends := (backends.database?.map (·.probe), backends)
  probeRedis backends :=
    match backends.redis? with
    | none => (none, backends)
    | some connection =>
      let (probe, connection) := Redis.probe connection
      (some probe, backends.mapRedis fun _ => connection)

end Gatehouse
