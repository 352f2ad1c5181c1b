import Gatehouse.Metrics.Registry

/-! Tables of counts. A change to one series leaves the others as they are. -/
namespace Gatehouse.Metrics.Table

private theorem lookup_cons {α : Type} (name other : List String) (value : α)
    (rest : List (List String × α)) :
    ((name, value) :: rest).lookup other = if other = name then some value else rest.lookup other := by
  rw [List.lookup_cons]
  by_cases same : other = name
  · simp [same]
  · simp [same, beq_eq_false_iff_ne.mpr same]

theorem get?_update {α : Type} (table : Table α) (labels other : List String) (blank : α)
    (change : α → α) :
    (table.update labels blank change).get? other =
      if other = labels then some (change ((table.get? labels).getD blank))
      else table.get? other := by
  have entries (known : List (List String × α)) :
      (update.go labels blank change known).lookup other =
        if other = labels then some (change ((known.lookup labels).getD blank))
        else known.lookup other := by
    induction known with
    | nil =>
      unfold update.go
      rw [lookup_cons]
      rfl
    | cons entry rest ih =>
      obtain ⟨name, value⟩ := entry
      unfold update.go
      by_cases own : name = labels
      · rw [if_pos own, own, lookup_cons, lookup_cons, lookup_cons, if_pos rfl]
        by_cases same : other = labels
        · simp only [same, if_true, Option.getD_some]
        · simp only [same, if_false]
      · rw [if_neg own, lookup_cons, lookup_cons, lookup_cons, ih, if_neg (Ne.symm own)]
        by_cases found : other = name
        · simp only [found, own, if_true, if_false]
        · simp only [found, if_false]
  exact entries table.entries

/-- How often something has been counted under some labels, by what the values say of that. -/
def tally {α : Type} (times : α → Nat) (table : Table α) (labels : List String) : Nat :=
  ((table.get? labels).map times).getD 0

theorem tally_raised {α : Type} {times : α → Nat} {blank : α} {change : α → α}
    (fresh : times blank = 0) (raises : ∀ value, times (change value) = times value + 1)
    (table : Table α) (labels other : List String) :
    (table.update labels blank change).tally times other =
      table.tally times other + if labels = other then 1 else 0 := by
  unfold tally
  rw [get?_update]
  by_cases same : other = labels
  · rw [if_pos same, if_pos same.symm, same]
    cases table.get? labels with
    | none => simp [raises, fresh]
    | some value => simp [raises]
  · rw [if_neg same, if_neg (Ne.symm same), Nat.add_zero]

/-- How often something has been counted under some labels. -/
def count (table : Table Nat) (labels : List String) : Nat := (table.get? labels).getD 0

theorem count_raised (table : Table Nat) (labels other : List String) :
    (table.update labels 0 (· + 1)).count other =
      table.count other + if labels = other then 1 else 0 := by
  have raised : (table.update labels 0 (· + 1)).tally id other =
      table.tally id other + if labels = other then 1 else 0 := by
    refine tally_raised ?fresh ?raises table labels other
    case fresh => rfl
    case raises => exact fun _ => rfl
  simpa only [count, tally, Option.map_id, id] using raised

/-- How many observations there are under some labels. -/
def observations (table : Table Histogram) (labels : List String) : Nat :=
  table.tally (·.count) labels

theorem observations_raised (table : Table Histogram) (labels other : List String)
    (bounds : List Nat) (value : Nat) :
    (table.update labels (.blank bounds.length) (.observe bounds value)).observations other =
      table.observations other + if labels = other then 1 else 0 := by
  refine tally_raised ?fresh ?raises table labels other
  case fresh => rfl
  case raises => exact fun _ => rfl

end Gatehouse.Metrics.Table
