import Gatehouse.Access.Bearer
import Gatehouse.Metrics.Registry
import Gatehouse.RateLimit.Counter
import Gatehouse.RateLimit.Scope

/-!
What the handling of a request reads and changes: the clocks, the counter store, the metrics, and a
journal of everything that was done. `Run` is the type of an activity in this world; it may end
early, by a breakdown or because the time of the request is up.
-/
namespace Gatehouse

namespace RateLimit

/-- How a limiter dealt with a request. -/
inductive Outcome where
  | allowed
  | denied
  | bypassed
  deriving DecidableEq, Repr

def Outcome.code : Outcome → String
  | allowed => "allowed"
  | denied => "denied"
  | bypassed => "bypassed"

end RateLimit

/-- What was done, in order: increments with key and window seconds, log events, limiter decisions
and rejected credentials. -/
structure Journal where
  increments : List (String × Nat)
  events : List Event
  decisions : List (RateLimit.Scope × RateLimit.Outcome)
  rejections : List Access.Reason
  deriving DecidableEq, Repr

def Journal.empty : Journal := ⟨[], [], [], []⟩

structure World (σ : Type) where
  clock : Clock
  /-- The timer reading at which the request in hand is given up, where there is one. -/
  deadline : Option Nanos
  store : σ
  metrics : Metrics
  journal : Journal

/-- A world at the origin of the timer. -/
def World.start {σ : Type} (wall : Int) (store : σ) : World σ :=
  ⟨.running wall 0, none, store, .empty, .empty⟩

/-- How an activity ends early: a breakdown, which carries a text or nothing that could be shown, or
the deadline. -/
inductive Interrupt where
  | broken (payload : Option String)
  | timeUp
  deriving DecidableEq, Repr

/-- An activity: it changes the world and gives a result, or ends early and leaves the world as it
is then. -/
abbrev Run (σ : Type) := ExceptT Interrupt (StateM (World σ))

/-- What answers a request. -/
abbrev Handler (σ : Type) := Request → Run σ Response

/-- What stands in front of a handler. -/
abbrev Layer (σ : Type) := Handler σ → Handler σ

namespace Run

variable {σ : Type}

/-- Runs an activity. -/
def perform {α : Type} (activity : Run σ α) (world : World σ) : Except Interrupt α × World σ :=
  (ExceptT.run activity).run world

def changeJournal (change : Journal → Journal) : Run σ Unit :=
  modify fun w => { w with journal := change w.journal }

def changeMetrics (change : Metrics → Metrics) : Run σ Unit :=
  modify fun w => { w with metrics := change w.metrics }

/-- Writes an event to the log. -/
def log (event : Event) : Run σ Unit :=
  changeJournal fun j => { j with events := j.events ++ [event] }

/-- Writes events to the log. -/
def logAll (events : List Event) : Run σ Unit :=
  changeJournal fun j => { j with events := j.events ++ events }

/-- Reports a limiter's decision. -/
def reportDecision (scope : RateLimit.Scope) (outcome : RateLimit.Outcome) : Run σ Unit :=
  modify fun w => { w with
    journal := { w.journal with decisions := w.journal.decisions ++ [(scope, outcome)] }
    metrics := w.metrics.countDecision outcome.code scope.code }

/-- Reports a rejected credential. -/
def reportRejection (reason : Access.Reason) : Run σ Unit :=
  modify fun w => { w with
    journal := { w.journal with rejections := w.journal.rejections ++ [reason] }
    metrics := w.metrics.countRejection reason.code }

/-- Lets both clocks go on for a while. A wait that would end at the deadline or behind it ends the
activity at the deadline; no wait is no wait. -/
def wait (duration : Nanos) : Run σ Unit := do
  let w ← get
  if duration = 0 then return ()
  match w.deadline with
  | some deadline =>
    if deadline ≤ w.clock.timer + duration then
      set { w with clock := { w.clock with timer := max w.clock.timer deadline } }
      throw .timeUp
    else set { w with clock := w.clock.later duration }
  | none => set { w with clock := w.clock.later duration }

end Run
end Gatehouse
