import Gatehouse.Clock
import Gatehouse.Event

/-!
Why a rate limit could not be checked. A limiter lets a request pass in every one of these cases and
writes the reason to the log.
-/
namespace Gatehouse.RateLimit

inductive LimitError where
  | unknownScope (name : String)
  | addressUnavailable
  | redis (detail : String)
  | database (detail : String)
  | malformed (detail : String)
  | timeout (limit : Nanos)
  deriving DecidableEq, Repr

namespace LimitError

def message : LimitError → String
  | unknownScope name => "Unknown rate limit scope: " ++ name
  | addressUnavailable => "Client address unavailable"
  | redis detail => "Failed to execute rate limit script: " ++ detail
  | database detail => "Rate limit database error: " ++ detail
  | malformed detail => "Invalid rate limit store result: " ++ detail
  | timeout limit => "Rate limit store timed out after " ++ spanText limit

/-- Whether the check failed before any counter was asked. -/
def isKeyDerivation : LimitError → Bool
  | unknownScope _ | addressUnavailable => true
  | _ => false

/-- The log event of a check that failed, with the key where there was one. -/
def event (error : LimitError) (key : Option String) : Event :=
  if error.isKeyDerivation then
    ⟨.warn, "Rate limit key generation failed, allowing request", [("error", error.message)]⟩
  else
    ⟨.error, "Rate limit check failed, allowing request",
      [("error", error.message), ("key", key.getD "")]⟩

end LimitError

/-- Arithmetic on times that leaves the range of a clock. -/
inductive Overflow where
  | span
  | date
  | timer
  deriving DecidableEq, Repr

def Overflow.message : Overflow → String
  | span => "TimeDelta::seconds out of bounds"
  | date => "\x60DateTime + TimeDelta\x60 overflowed"
  | timer => "overflow when adding duration to instant"

end Gatehouse.RateLimit
