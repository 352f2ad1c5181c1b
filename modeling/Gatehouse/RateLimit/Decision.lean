import Gatehouse.RateLimit.Error

/-!
Decisions: what a counter's answer means for the request that was counted.
-/
namespace Gatehouse.RateLimit

/-- A counter's answer: how many requests its window has seen, this one included, and how many
seconds the window still lasts. Nothing is known of either number before it has been checked. -/
structure Snapshot where
  count : Int
  secondsLeft : Int
  deriving DecidableEq, Repr

/-- What follows from a snapshot. The reset time is a wall clock reading. -/
structure Decision where
  allowed : Bool
  count : Nat
  remaining : Nat
  resetAt : Int
  deriving DecidableEq, Repr

/-- Why there is no decision. -/
inductive Failure where
  | refused (error : LimitError)
  | overflowed (overflow : Overflow)
  deriving DecidableEq, Repr

namespace Decision

/-- The instant some seconds after a wall clock reading, where the calendar has one. -/
def addSeconds (wall : Int) (seconds : Nat) : Except Overflow Int :=
  if longestSpan < seconds then .error .span
  else
    let sum := wall + seconds * 1_000_000_000
    if calendarStart ≤ sum ∧ sum ≤ calendarEnd then .ok sum else .error .date

/-- Counts are positive and times left are not negative; the request is allowed up to the limit. -/
def ofSnapshot (snapshot : Snapshot) (limit : Nat) (wall : Int) : Except Failure Decision :=
  if snapshot.count ≤ 0 then
    .error (.refused (.malformed ("count = " ++ Numeral.signed snapshot.count)))
  else if snapshot.secondsLeft < 0 then
    .error (.refused (.malformed ("ttl = " ++ Numeral.signed snapshot.secondsLeft)))
  else
    let count := snapshot.count.toNat
    match addSeconds wall snapshot.secondsLeft.toNat with
    | .error overflow => .error (.overflowed overflow)
    | .ok resetAt => .ok ⟨count ≤ limit, count, limit - count, resetAt⟩

/-- The reset time in whole seconds, rounded down. -/
def resetSeconds (decision : Decision) : Int := decision.resetAt.fdiv 1_000_000_000

end Decision
end Gatehouse.RateLimit
