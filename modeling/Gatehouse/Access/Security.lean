/-!
Which routes need a credential. A table is built row by row; what it does not mention is open.
-/
namespace Gatehouse.Access

inductive Requirement where
  | anyone
  | bearer
  deriving DecidableEq, Repr

/-- The name of a requirement. -/
def Requirement.label : Requirement → String
  | .anyone => "none"
  | .bearer => "bearer"

/-- Rows in the order they were declared: method, route template and requirement. -/
structure SecurityTable where
  rows : List ((String × String) × Requirement)
  deriving DecidableEq, Repr

namespace SecurityTable

def empty : SecurityTable := ⟨[]⟩

/-- Declares a route. A later row for the same route replaces an earlier one. -/
def declare (table : SecurityTable) (method route : String) (requirement : Requirement) :
    SecurityTable :=
  ⟨table.rows ++ [((method, route), requirement)]⟩

/-- Declares that a route needs a credential. -/
def bearer (table : SecurityTable) (method route : String) : SecurityTable :=
  table.declare method route .bearer

/-- The requirement of the last row of a route. `HEAD` is answered as `GET` is, and is looked up as
it. -/
def requirement (table : SecurityTable) (method route : String) : Requirement :=
  let method := if method = "HEAD" then "GET" else method
  ((table.rows.reverse.lookup (method, route))).getD .anyone

/-- The table of the service: only who one is needs a credential. -/
def service : SecurityTable := empty.bearer "GET" "/me"

end SecurityTable
end Gatehouse.Access
