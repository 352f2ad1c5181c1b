import Gatehouse.Proofs.Json.TreeFields

/-!
Members that belong to nothing. A record makes the same of an object with such a member and without
it, wherever the member stands, in the object itself or in one of those inside it.
-/
namespace Gatehouse.Json
open Cursor Json.Tree

variable {α σ τ : Type} {unknown : List String → String → Prop} {path : List String}

/-- The second document has one member more: an unknown one of the object at some place below the
path at which the documents stand. -/
inductive Tree.Adds (unknown : List String → String → Prop) : List String → Tree → Tree → Prop where
  | here {path : List String} {front back : List (List Piece × Tree)} {name : List Piece}
    {key : String} (value : Tree) (spelled : spelled? name = some key) (foreign : unknown path key) :
    Adds unknown path (.object (front ++ back)) (.object (front ++ (name, value) :: back))
  | inside {path : List String} {front back : List (List Piece × Tree)} {name : List Piece}
    {key : String} {small large : Tree} (spelled : spelled? name = some key)
    (adds : Adds unknown (path ++ [key]) small large) :
    Adds unknown path (.object (front ++ (name, small) :: back))
      (.object (front ++ (name, large) :: back))

theorem Tree.Adds.somewhere {small large : Tree} (adds : Adds unknown path small large) :
    ∃ more key, unknown (path ++ more) key := by
  induction adds with
  | here value spelled foreign => exact ⟨[], _, by simpa using foreign⟩
  | @inside path _ _ _ key _ _ _ _ ih =>
    obtain ⟨more, last, foreign⟩ := ih
    exact ⟨key :: more, last, by simpa using foreign⟩

namespace Decoder

/-- The decoder makes the same of a document at the path with an unknown member and without it. -/
def Ignores (unknown : List String → String → Prop) (path : List String) (decoder : Decoder α) : Prop :=
  ∀ ⦃small large⦄, Adds unknown path small large → small.IsWritable → large.IsWritable →
    ∀ depth, ∃ value, Makes decoder depth small value ∧ Makes decoder depth large value

variable {decoder : Decoder α}

/-- Nothing is unknown where no object is asked for. -/
theorem ignores_nowhere (nowhere : ∀ more key, ¬ unknown (path ++ more) key) :
    Ignores unknown path decoder := by
  intro small large adds
  obtain ⟨more, key, foreign⟩ := adds.somewhere
  exact absurd foreign (nowhere more key)

theorem field_ignores (name : String) (ignores : Ignores unknown path decoder) (set : α → σ → σ) :
    Ignores unknown path (Field.optional name decoder set).read := by
  intro small large adds writable largeWritable depth
  obtain ⟨value, one, other⟩ := ignores adds writable largeWritable depth
  exact ⟨value.map set, fun c rest stands => answers_map set (one c rest stands),
    fun c rest stands => answers_map set (other c rest stands)⟩

section Filling

variable {fields : List (Field σ)} {reads : Field σ → Tree → Option (σ → σ)} {name : List Piece}
  {key : String}

/-- An unknown member is passed over. -/
theorem filling_unknown (spelled : spelled? name = some key)
    (foreign : fields.find? (·.name == key) = none) (value : Tree)
    (front back : List (List Piece × Tree)) (begun : Filled σ) :
    (front ++ (name, value) :: back).foldlM (fill fields reads fun _ => some none) begun =
      (front ++ back).foldlM (fill fields reads fun _ => some none) begun := by
  have passed (filled : Filled σ) :
      fill fields reads (fun _ => some none) filled (name, value) = some filled := by
    rw [fill, spelled, Option.bind_some, foreign]
    rfl
  rw [List.foldlM_append, List.foldlM_append]
  refine congrArg _ (funext fun filled => ?_)
  rw [List.foldlM_cons, passed]
  rfl

/-- Of a member only what its field makes of it matters. -/
theorem filling_alike {small large : Tree} (spelled : spelled? name = some key)
    (alike : ∀ field, fields.find? (·.name == key) = some field → reads field small = reads field large)
    (front back : List (List Piece × Tree)) (begun : Filled σ) :
    (front ++ (name, small) :: back).foldlM (fill fields reads fun _ => some none) begun =
      (front ++ (name, large) :: back).foldlM (fill fields reads fun _ => some none) begun := by
  have same (filled : Filled σ) : fill fields reads (fun _ => some none) filled (name, small) =
      fill fields reads (fun _ => some none) filled (name, large) := by
    simp only [fill, spelled, Option.bind_some]
    cases found : fields.find? (·.name == key) with
    | some field => simp only [alike field found]
    | none => rfl
  rw [List.foldlM_append, List.foldlM_append]
  refine congrArg _ (funext fun filled => ?_)
  rw [List.foldlM_cons, List.foldlM_cons, same]

end Filling

/-- A record ignores what each of its fields ignores, and the members that belong to no field. -/
theorem record_ignores {shape : Shape σ} (sound : shape.IsSection)
    (foreign : ∀ key, unknown path key → shape.fields.find? (·.name == key) = none)
    (ignores : ∀ field ∈ shape.fields, Ignores unknown (path ++ [field.name]) field.read) :
    Ignores unknown path (record shape) := by
  intro small large adds writable largeWritable depth
  rcases Nat.lt_or_ge depth 2 with shallow | deep
  · exact ⟨none, record_shallow shape shallow small, record_shallow shape shallow large⟩
  obtain ⟨deeper, rfl⟩ := Nat.exists_eq_add_of_le' deep
  choose! reads makes using fun field held tree => sound.definite field held (deeper + 1) tree
  have each := record_makes makes sound.mayMiss
  cases adds with
  | @here _ front back name key value spelled unknownKey =>
    refine ⟨_, each (front ++ back), ?_⟩
    rw [← filling_unknown spelled (foreign key unknownKey) value]
    exact each (front ++ (name, value) :: back)
  | @inside _ front back name key small large spelled adds =>
    refine ⟨_, each (front ++ (name, small) :: back), ?_⟩
    have member {value : Tree} : (name, value) ∈ front ++ (name, value) :: back := by simp
    have alike (field : Field σ) (found : shape.fields.find? (·.name == key) = some field) :
        reads field small = reads field large := by
      have held := List.mem_of_find?_eq_some found
      have smallWritable := writable.members _ member
      have largeWritable := largeWritable.members _ member
      obtain ⟨value, one, other⟩ := ignores field held (found_name found ▸ adds) smallWritable
        largeWritable (deeper + 1)
      rw [makes_unique smallWritable (makes field held small) one,
        makes_unique largeWritable (makes field held large) other]
    rw [filling_alike spelled alike]
    exact each (front ++ (name, large) :: back)

end Decoder
end Gatehouse.Json
