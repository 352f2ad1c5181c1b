import Gatehouse.Text.Numeral

/-!
Log events. An event has a level, a message and named fields in the order they were given.
-/
namespace Gatehouse

inductive Level where
  | error
  | warn
  | info
  | debug
  | trace
  deriving DecidableEq, Repr

/-- The name of a level in a log line. -/
def Level.label : Level → String
  | .error => "ERROR"
  | .warn => "WARN"
  | .info => "INFO"
  | .debug => "DEBUG"
  | .trace => "TRACE"

/-- How talkative a level is: an event passes a filter of at least its own rank. -/
def Level.rank : Level → Nat
  | .error => 1
  | .warn => 2
  | .info => 3
  | .debug => 4
  | .trace => 5

/-- One log event. A field may bear the name `message` too. -/
structure Event where
  level : Level
  message : String
  fields : List (String × String)
  deriving DecidableEq, Repr

/-- Message and fields in the order they are shown. -/
def Event.allFields (event : Event) : List (String × String) :=
  ("message", event.message) :: event.fields

end Gatehouse
