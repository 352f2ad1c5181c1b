import Gatehouse.Text.Shortest

/-!
What the service counts: requests by method, route and status, their sizes and durations, the
requests in flight, limiter decisions and rejected credentials.
-/
namespace Gatehouse.Metrics

/-- Values by label texts, one entry for each combination that has occurred. -/
structure Table (α : Type) where
  entries : List (List String × α)
  deriving DecidableEq, Repr

namespace Table

variable {α : Type}

def empty : Table α := ⟨[]⟩

/-- The value of a combination of labels. -/
def get? (table : Table α) (labels : List String) : Option α :=
  table.entries.lookup labels

/-- Changes the value of a combination, which starts as `blank`. -/
def update (table : Table α) (labels : List String) (blank : α) (change : α → α) : Table α :=
  ⟨go table.entries⟩
where
  go : List (List String × α) → List (List String × α)
    | [] => [(labels, change blank)]
    | (known, value) :: rest =>
      if known = labels then (known, change value) :: rest else (known, value) :: go rest

end Table

/-- Observations of one series: how many there were, their sum held as a double, and for each upper
bound how many did not pass it. -/
structure Histogram where
  count : Nat
  sum : Nat
  within : List Nat
  deriving DecidableEq, Repr

/-- No observation yet, for a number of upper bounds. -/
def Histogram.blank (bounds : Nat) : Histogram := ⟨0, 0, List.replicate bounds 0⟩

/-- One more observation. -/
def Histogram.observe (bounds : List Nat) (value : Nat) (h : Histogram) : Histogram :=
  let value := Shortest.roundNat value
  ⟨h.count + 1, Shortest.roundNat (h.sum + value),
    (h.within.zip bounds).map fun (n, bound) => if value ≤ bound then n + 1 else n⟩

/-- The upper bounds of sizes in bytes. -/
def sizeBounds : List Nat := (List.range 8).map fun i => 100 * Nat.pow 10 i

/-- The upper bounds of durations, as texts of seconds. -/
def durationBounds : List String :=
  ["0.005", "0.01", "0.025", "0.05", "0.1", "0.25", "0.5", "1", "2.5", "5", "10"]

end Gatehouse.Metrics

namespace Gatehouse

open Metrics in
/-- All counts of the service. A request takes no time by the clock that measures durations, so
every observation of a duration is zero. -/
structure Metrics where
  requests : Table Nat
  durations : Table Nat
  requestSizes : Table Histogram
  responseSizes : Table Histogram
  inFlight : Int
  decisions : Table Nat
  rejections : Table Nat
  deriving DecidableEq, Repr

end Gatehouse

namespace Gatehouse.Metrics

def empty : Metrics := ⟨.empty, .empty, .empty, .empty, 0, .empty, .empty⟩

/-- A request has come in. -/
def enter (m : Metrics) : Metrics := { m with inFlight := m.inFlight + 1 }

/-- A request has been answered. -/
def leave (m : Metrics) : Metrics := { m with inFlight := m.inFlight - 1 }

/-- Counts an answered request under its method, route and status. -/
def record (m : Metrics) (method path : String) (status requestBytes responseBytes : Nat) :
    Metrics :=
  let labels := [method, path, Numeral.decimal status]
  let blank := Histogram.blank sizeBounds.length
  { m with
    requests := m.requests.update labels 0 (· + 1)
    durations := m.durations.update labels 0 (· + 1)
    responseSizes := m.responseSizes.update labels blank (.observe sizeBounds responseBytes)
    requestSizes :=
      m.requestSizes.update [method, path] blank (.observe sizeBounds requestBytes) }

/-- Counts a limiter's decision, by outcome and scope. -/
def countDecision (m : Metrics) (outcome scope : String) : Metrics :=
  { m with decisions := m.decisions.update [outcome, scope] 0 (· + 1) }

/-- Counts a rejected credential. -/
def countRejection (m : Metrics) (reason : String) : Metrics :=
  { m with rejections := m.rejections.update [reason] 0 (· + 1) }

end Gatehouse.Metrics
