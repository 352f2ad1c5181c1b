import Gatehouse.RateLimit.Counter

/-!
The database behind a pool of connections, as far as the service notices it: a database that cannot
be reached says so at once, one that accepts and never answers keeps every caller waiting for a
connection.
-/
namespace Gatehouse.Database

/-- Why a statement was not carried out. -/
inductive Failure where
  /-- The connection could not be made. -/
  | unreachable (reason : String)
  /-- No connection came free in time. -/
  | noConnection
  deriving DecidableEq, Repr

def Failure.message : Failure → String
  | unreachable reason => "error communicating with database: " ++ reason
  | noConnection => "pool timed out while waiting for an open connection"

/-- A pool, by how its database behaves. -/
inductive Pool where
  | down (reason : String)
  | silent
  deriving DecidableEq, Repr

namespace Pool

/-- How long a caller waits for a connection. -/
def acquireTimeout : Nanos := 30_000_000_000

/-- What a statement comes to, and after how long. -/
def attempt : Pool → Failure × Nanos
  | down reason => (.unreachable reason, 0)
  | silent => (.noConnection, acquireTimeout)

/-- The failure of a statement as the limiter sees it. -/
def limitError (pool : Pool) : RateLimit.LimitError := .database pool.attempt.1.message

/-- What the counter store on a pool shows of itself in diagnostics. -/
def description : String := "PgCounterStore \x7b .. \x7d"

end Pool

open RateLimit in
instance : CounterStore Pool where
  increment pool _ _ _ := ⟨pool, .failed pool.limitError, some pool.attempt.2⟩

end Gatehouse.Database
