import Gatehouse.Proofs.Access.Gate

/-! What a table asks for, told by the declarations that it was built from. The last declaration for a
method and a route counts, and where there is none nothing is asked for. `HEAD` is looked up as `GET`,
also where it has declarations of its own: these are kept in the table, but no look-up comes to them. -/
namespace Gatehouse.Access

/-- One step in the building of a table. -/
inductive Declaration where
  | bearer (method route : String)
  | declare (method route : String) (requirement : Requirement)
  deriving DecidableEq, Repr

namespace Declaration

/-- What is declared, and for what. -/
def row : Declaration → (String × String) × Requirement
  | bearer method route => ((method, route), .bearer)
  | declare method route requirement => ((method, route), requirement)

end Declaration

namespace SecurityTable

/-- The table with one more declaration. -/
def after (table : SecurityTable) : Declaration → SecurityTable
  | .bearer method route => table.bearer method route
  | .declare method route requirement => table.declare method route requirement

/-- The table of some declarations. -/
def built (declarations : List Declaration) : SecurityTable := declarations.foldl after .empty

theorem after_rows (table : SecurityTable) (declaration : Declaration) :
    (table.after declaration).rows = table.rows ++ [declaration.row] := by
  cases declaration with
  | bearer method route => rfl
  | declare method route requirement => rfl

theorem built_rows (declarations : List Declaration) :
    (built declarations).rows = declarations.map Declaration.row := by
  induction declarations using List.reverseRecOn with
  | nil => rfl
  | append_singleton before last ih =>
    have step : built (before ++ [last]) = (built before).after last := by
      unfold built
      rw [List.foldl_append]
      rfl
    rw [step, after_rows, ih, List.map_append]
    rfl

end SecurityTable

/-! ## What is due -/

section Due

variable {declarations : List Declaration} {method route : String}
  {requirement other : Requirement}

/-- There is a declaration for exactly this method and route. -/
def Declared (declarations : List Declaration) (method route : String) : Prop :=
  ∃ declaration ∈ declarations, declaration.row.1 = (method, route)

/-- The last declaration for exactly this method and route. -/
def LastDeclared (declarations : List Declaration) (method route : String)
    (requirement : Requirement) : Prop :=
  ∃ before last behind, declarations = before ++ last :: behind ∧
    last.row = ((method, route), requirement) ∧
      ∀ later ∈ behind, later.row.1 ≠ (method, route)

/-- What declarations ask for: what the last one for exactly this method and route says. Without any,
`HEAD` follows `GET`, and of all else nothing is asked. -/
inductive Due (declarations : List Declaration) (route : String) : String → Requirement → Prop
  | declared {method : String} {requirement : Requirement}
      (last : LastDeclared declarations method route requirement) :
      Due declarations route method requirement
  | follows {requirement : Requirement} (undeclared : ¬ Declared declarations "HEAD" route)
      (leads : Due declarations route "GET" requirement) :
      Due declarations route "HEAD" requirement
  | undeclared {method : String} (undeclared : ¬ Declared declarations method route)
      (own : method ≠ "HEAD") : Due declarations route method .anyone

theorem LastDeclared.declared (last : LastDeclared declarations method route requirement) :
    Declared declarations method route := by
  obtain ⟨before, declaration, behind, rfl, row, _⟩ := last
  exact ⟨declaration, by simp, by rw [row]⟩

/-- The last declarations are the last rows of the table. -/
theorem says_built_iff :
    (SecurityTable.built declarations).Says method route requirement ↔
      LastDeclared declarations method route requirement := by
  unfold SecurityTable.Says LastDeclared
  rw [SecurityTable.built_rows]
  constructor
  · rintro ⟨front, rows, shape, others⟩
    obtain ⟨before, rest, rfl, rfl, second⟩ := List.map_eq_append_iff.mp shape
    obtain ⟨last, behind, rfl, row, rfl⟩ := List.map_eq_cons_iff.mp second
    exact ⟨before, last, behind, rfl, row, fun later member =>
      others later.row (List.mem_map_of_mem member)⟩
  · rintro ⟨before, last, behind, rfl, row, others⟩
    refine ⟨before.map Declaration.row, behind.map Declaration.row, ?_, ?_⟩
    · rw [List.map_append, List.map_cons, row]
    · intro _ member
      obtain ⟨later, there, rfl⟩ := List.mem_map.mp member
      exact others later there

/-- A look-up finds the last declaration, or there is none. -/
theorem lookup_built_iff :
    (SecurityTable.built declarations).rows.reverse.lookup (method, route) = some requirement ↔
      LastDeclared declarations method route requirement :=
  lookup_iff_says.trans says_built_iff

theorem lookup_built_none_iff :
    (SecurityTable.built declarations).rows.reverse.lookup (method, route) = none ↔
      ¬ Declared declarations method route := by
  rw [List.lookup_eq_none_iff, SecurityTable.built_rows]
  constructor
  · rintro none_there ⟨declaration, member, same⟩
    have different := none_there declaration.row
      (List.mem_reverse.mpr (List.mem_map_of_mem member))
    rw [same] at different
    simp at different
  · intro undeclared row member
    obtain ⟨declaration, there, rfl⟩ := List.mem_map.mp (List.mem_reverse.mp member)
    exact bne_iff_ne.mpr fun same => undeclared ⟨declaration, there, same.symm⟩

/-- There is one last declaration, if there is any. -/
theorem LastDeclared.unique (last : LastDeclared declarations method route requirement)
    (also : LastDeclared declarations method route other) : requirement = other :=
  Option.some.inj ((lookup_built_iff.mpr last).symm.trans (lookup_built_iff.mpr also))

/-- One thing is due for a method and a route. -/
theorem Due.unique (due : Due declarations route method requirement)
    (also : Due declarations route method other) : requirement = other := by
  induction due with
  | declared last =>
    cases also with
    | declared more => exact last.unique more
    | follows undeclared _ => exact absurd last.declared undeclared
    | undeclared undeclared _ => exact absurd last.declared undeclared
  | follows undeclared _ ih =>
    cases also with
    | declared more => exact absurd more.declared undeclared
    | follows _ leads => exact ih leads
    | undeclared _ own => exact absurd rfl own
  | undeclared undeclared own =>
    cases also with
    | declared more => exact absurd more.declared undeclared
    | follows _ _ => exact absurd rfl own
    | undeclared _ _ => rfl

/-- A method other than `HEAD` is asked for what is due for it. -/
theorem due_looked_up (own : method ≠ "HEAD") :
    Due declarations route method
      (((SecurityTable.built declarations).rows.reverse.lookup (method, route)).getD .anyone) := by
  cases found : (SecurityTable.built declarations).rows.reverse.lookup (method, route) with
  | none => exact .undeclared (lookup_built_none_iff.mp found) own
  | some requirement => exact .declared (lookup_built_iff.mp found)

end Due

/-! ## What is enforced -/

/-- A table that has been built asks of every method what is due for it, and of `HEAD` what is due for
`GET`. So what is due is what is enforced, unless `HEAD` has declarations of its own: then it is so
exactly if the last of these says what is due for `GET`. -/
theorem enforced_as_due_iff (declarations : List Declaration) (method route : String) :
    let enforced := (SecurityTable.built declarations).requirement method route
    (∀ requirement, enforced = requirement ↔
      Due declarations route (if method = "HEAD" then "GET" else method) requirement) ∧
    (Due declarations route method enforced ↔
      ∀ own, method = "HEAD" → LastDeclared declarations "HEAD" route own →
        Due declarations route "GET" own) := by
  intro enforced
  have asked : Due declarations route (if method = "HEAD" then "GET" else method) enforced := by
    refine due_looked_up ?_
    split
    · decide
    next own => exact own
  refine ⟨fun requirement => ⟨fun same => same ▸ asked, asked.unique⟩, ?_⟩
  by_cases heads : method = "HEAD"
  · subst heads
    constructor
    · intro due own _ last
      rw [(Due.declared last).unique due]
      exact asked
    · intro agrees
      by_cases own : ∃ requirement, LastDeclared declarations "HEAD" route requirement
      · obtain ⟨requirement, last⟩ := own
        rw [asked.unique (agrees requirement rfl last)]
        exact .declared last
      · refine .follows (fun declared => own ?_) asked
        have found := mt lookup_built_none_iff.mp (not_not.mpr declared)
        obtain ⟨requirement, last⟩ := Option.ne_none_iff_exists'.mp found
        exact ⟨requirement, lookup_built_iff.mp last⟩
  · rw [if_neg heads] at asked
    exact iff_of_true asked fun _ same => absurd same heads

/-- A row for `HEAD` alone: a credential is due, and anyone may pass. -/
theorem head_row_unenforced :
    let declarations := [Declaration.bearer "HEAD" "/reports"]
    Due declarations "/reports" "HEAD" .bearer ∧
      (SecurityTable.built declarations).requirement "HEAD" "/reports" = .anyone := by
  refine ⟨.declared ⟨[], .bearer "HEAD" "/reports", [], rfl, rfl, ?_⟩, by decide⟩
  intro later member
  cases member

end Gatehouse.Access
