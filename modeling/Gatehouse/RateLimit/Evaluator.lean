import Gatehouse.Service.World

/-!
Checking a limit: one increment within a time limit, and the decision that follows from it.
-/
namespace Gatehouse.RateLimit

/-- How long a store may take where nothing else is said. -/
def standardStoreTimeout : Nanos := 500_000_000

variable {σ : Type} [CounterStore σ]

/-- Counts one request and waits for the reply, at most `timeout`. A reply that comes with the
timeout still counts. -/
def countRequest (timeout : Nanos) (key : Key) (seconds : Nat) :
    Run σ (Except LimitError Snapshot) := do
  let w ← get
  let attempt := CounterStore.increment w.store w.clock.timer key.text seconds
  set { w with
    store := attempt.store
    journal := { w.journal with increments := w.journal.increments ++ [(key.text, seconds)] } }
  match attempt.delay with
  | some delay =>
    if delay ≤ timeout then
      Run.wait delay
      match attempt.reply with
      | .snapshot snapshot => return .ok snapshot
      | .failed error => return .error error
      | .broken payload => throw (.broken payload)
    else
      Run.wait timeout
      return .error (.timeout timeout)
  | none =>
    Run.wait timeout
    return .error (.timeout timeout)

/-- The decision on one more request, or why there is none. Times out of range break the
activity. -/
def checkLimit (timeout : Nanos) (key : Key) (limit : Nat) (window : Nanos) :
    Run σ (Except LimitError Decision) := do
  match ← countRequest timeout key (wholeSeconds window) with
  | .error error => return .error error
  | .ok snapshot =>
    match Decision.ofSnapshot snapshot limit (← get).clock.wall with
    | .ok decision => return .ok decision
    | .error (.refused error) => return .error error
    | .error (.overflowed overflow) => throw (.broken (some overflow.message))

end Gatehouse.RateLimit
