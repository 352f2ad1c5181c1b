import Gatehouse.Proofs.Json.Trees
import Mathlib.Data.List.Forall2
import Mathlib.Data.List.Nodup

/-!
Documents that differ in the order of the members of their objects, at any depth. What a value says
where no object is asked for does not depend on that order, and neither does what stands at a path of
objects that name no member twice.
-/
namespace Gatehouse.Json.Tree

variable {α : Type} {tree other : Tree}

/-- The members of any objects are put into another order. -/
inductive Reordered : Tree → Tree → Prop where
  | same (tree : Tree) : Reordered tree tree
  | list (pairs : List (Tree × Tree)) (each : ∀ pair ∈ pairs, Reordered pair.1 pair.2) :
    Reordered (.list (pairs.map Prod.fst)) (.list (pairs.map Prod.snd))
  | object (parts : List (List Piece × Tree × Tree)) {others : List (List Piece × Tree)}
    (each : ∀ part ∈ parts, Reordered part.2.1 part.2.2)
    (order : others.Perm (parts.map fun part => (part.1, part.2.2))) :
    Reordered (.object (parts.map fun part => (part.1, part.2.1))) (.object others)

theorem Reordered.items {items : List Tree} (reordered : Reordered (.list items) other) :
    ∃ others, other = .list others ∧ List.Forall₂ Reordered items others := by
  cases reordered with
  | same => exact ⟨items, rfl, List.forall₂_same.mpr fun item _ => .same item⟩
  | list pairs each =>
    refine ⟨_, rfl, ?_⟩
    rw [List.forall₂_map_left_iff, List.forall₂_map_right_iff, List.forall₂_same]
    exact each

/-- The names are the same, and every value comes from one under the same name. -/
theorem Reordered.members {members : List (List Piece × Tree)}
    (reordered : Reordered (.object members) other) :
    ∃ others, other = .object others ∧ (others.map Prod.fst).Perm (members.map Prod.fst) ∧
      ∀ member ∈ others, ∃ source ∈ members, source.1 = member.1 ∧ Reordered source.2 member.2 := by
  cases reordered with
  | same => exact ⟨members, rfl, .refl _, fun member held => ⟨member, held, rfl, .same _⟩⟩
  | @object parts others each order =>
    refine ⟨others, rfl, ?_, fun member held => ?_⟩
    · simpa [Function.comp_def] using order.map Prod.fst
    · obtain ⟨part, among, rfl⟩ := List.mem_map.mp (order.mem_iff.mp held)
      exact ⟨_, List.mem_map_of_mem among, rfl, each part among⟩

/-! ## Readings -/

/-- What is read does not depend on the order of members. -/
def IgnoresOrder (read : Tree → Option α) : Prop :=
  ∀ ⦃tree other⦄, Reordered tree other → read other = read tree

theorem text_ignores_order : IgnoresOrder text? := by
  intro tree other reordered
  cases reordered <;> rfl

theorem bool_ignores_order : IgnoresOrder bool? := by
  intro tree other reordered
  cases reordered <;> rfl

theorem nat_ignores_order : IgnoresOrder nat? := by
  intro tree other reordered
  cases reordered <;> rfl

theorem null_ignores_order : IgnoresOrder null? := by
  intro tree other reordered
  cases reordered <;> rfl

theorem items_ignore_order {read : Tree → Option α} (ignores : IgnoresOrder read) :
    IgnoresOrder (items? read) := by
  intro tree other reordered
  cases reordered with
  | same => rfl
  | object => rfl
  | list pairs each =>
    simp only [items?]
    induction pairs with
    | nil => rfl
    | cons pair pairs ih =>
      obtain ⟨first, others⟩ := List.forall_mem_cons.mp each
      simp only [List.map_cons, List.mapM_cons, ignores first, ih others]

theorem or_null_ignores_order {read : Tree → Option α} (ignores : IgnoresOrder read) :
    IgnoresOrder (orNull? read) := by
  intro tree other reordered
  have reads := ignores reordered
  cases reordered with
  | same => rfl
  | list => simp only [orNull?, reads]
  | object => simp only [orNull?, reads]

/-- The name in an object of one member. -/
theorem name_of_object (members : List (List Piece × Tree)) :
    (Tree.object members).name? = match members with
      | [(pieces, value)] => value.null?.bind fun _ => spelled? pieces
      | _ => none := by
  match members with
  | [] => rfl
  | [(pieces, value)] => cases value <;> rfl
  | (_, value) :: _ :: _ => cases value <;> rfl

theorem name_ignores_order : IgnoresOrder name? := by
  intro tree other reordered
  cases reordered with
  | same => rfl
  | list => rfl
  | @object parts others each order =>
    rw [name_of_object, name_of_object]
    match parts with
    | [] =>
      rw [List.perm_nil.mp order]
      rfl
    | [part] =>
      rw [List.perm_singleton.mp order]
      exact congrArg (Option.bind · _) (null_ignores_order (each part List.mem_cons_self))
    | first :: second :: parts =>
      have many := order.length_eq
      match others with
      | [] => cases many
      | [_] => cases many
      | _ :: _ :: _ => rfl

/-! ## Members -/

variable {members : List (List Piece × Tree)}

theorem Reordered.distinct (reordered : Reordered tree other) (distinct : tree.HasDistinctNames) :
    other.HasDistinctNames := by
  cases tree with
  | object members =>
    obtain ⟨others, rfl, names, -⟩ := reordered.members
    have spelled := (names.map spelled?).nodup_iff
    simp only [List.map_map] at spelled
    exact spelled.mpr distinct
  | _ => exact distinct.elim

theorem member_of_mem {name : String} (distinct : (Tree.object members).HasDistinctNames)
    {member : List Piece × Tree} (held : member ∈ members) (spelled : spelled? member.1 = some name) :
    (Tree.object members).member? name = some member.2 := by
  rw [member?, Option.map_eq_some_iff]
  cases found : members.find? fun member => decide (spelled? member.1 = some name) with
  | none => exact absurd spelled (by simpa using List.find?_eq_none.mp found member held)
  | some first =>
    have same : spelled? first.1 = some name := by simpa using List.find?_some found
    have one := List.inj_on_of_nodup_map distinct (List.mem_of_find?_eq_some found) held
      (same.trans spelled.symm)
    exact ⟨first, rfl, congrArg Prod.snd one⟩

theorem member_none_iff {name : String} :
    (Tree.object members).member? name = none ↔ some name ∉ (members.map Prod.fst).map spelled? := by
  simp [member?]

/-- Where no name is repeated the same value is found. -/
theorem Reordered.member (reordered : Reordered tree other) (distinct : tree.HasDistinctNames)
    (name : String) : Option.Rel Reordered (tree.member? name) (other.member? name) := by
  cases tree with
  | object members =>
    obtain ⟨others, rfl, names, sources⟩ := reordered.members
    cases found : (Tree.object others).member? name with
    | none =>
      have absent : (Tree.object members).member? name = none := by
        rw [member_none_iff, (names.map spelled?).symm.mem_iff]
        exact member_none_iff.mp found
      rw [absent]
      exact .none
    | some value =>
      obtain ⟨member, held, spelled, rfl⟩ := member_held found
      obtain ⟨source, among, same, value⟩ := sources member held
      rw [member_of_mem distinct among (same ▸ spelled)]
      exact .some value
  | _ => exact distinct.elim

/-- The same is found at a path through objects that repeat no name. -/
theorem Reordered.at (reordered : Reordered tree other) {path : List String}
    (plain : ∀ front back, back ≠ [] → path = front ++ back → ∀ entry, tree.at? front = some entry →
      entry.HasDistinctNames) : Option.Rel Reordered (tree.at? path) (other.at? path) := by
  induction path generalizing tree other with
  | nil => exact .some reordered
  | cons name path ih =>
    have inner := reordered.member (plain [] (name :: path) (by simp) rfl tree rfl) name
    simp only [at?]
    generalize found : tree.member? name = value, other.member? name = another at inner
    cases inner with
    | none => exact .none
    | some inner =>
      refine ih inner fun front back shorter same entry here => ?_
      refine plain (name :: front) back shorter (by simp [same]) entry ?_
      simpa [at?, found] using here

end Gatehouse.Json.Tree
