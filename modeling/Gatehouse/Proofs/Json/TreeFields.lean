import Gatehouse.Proofs.Json.Taking
import Mathlib.Data.List.Nodup

/-!
Records of which every field may be absent, field by field. What such a record holds under one name
is what the decoder of that field takes the member of that name for, and stays what it was in the
blank record where no member has the name; the other members do not matter.
-/
namespace Gatehouse.Json
open Cursor Json.Tree

theorem lookup_front {α : Type} (pair : String × α) (pairs : List (String × α)) (name : String) :
    (pair :: pairs).lookup name = if pair.1 = name then some pair.2 else pairs.lookup name := by
  rw [List.lookup_cons]
  by_cases same : pair.1 = name
  · simp [same]
  · simp [same, beq_false_of_ne (Ne.symm same)]

theorem lookup_none_iff {α : Type} {pairs : List (String × α)} {name : String} :
    pairs.lookup name = none ↔ name ∉ pairs.map Prod.fst := by
  simp only [List.lookup_eq_none_iff, List.mem_map, bne_iff_ne]
  grind

/-- Where no name is repeated, what is listed is found. -/
theorem mem_iff_lookup {α : Type} {pairs : List (String × α)} (once : (pairs.map Prod.fst).Nodup)
    {name : String} {a : α} : (name, a) ∈ pairs ↔ pairs.lookup name = some a := by
  rw [List.lookup_eq_some_iff]
  constructor
  · intro held
    obtain ⟨front, back, rfl⟩ := List.append_of_mem held
    refine ⟨front, back, rfl, fun pair among => bne_iff_ne.mpr ?_⟩
    rintro rfl
    rw [List.map_append, List.map_cons, List.nodup_append] at once
    exact once.2.2 _ (List.mem_map_of_mem among) _ List.mem_cons_self rfl
  · rintro ⟨front, back, rfl, -⟩
    simp

theorem perm_of_lookup {α : Type} {first second : List (String × α)}
    (once : (first.map Prod.fst).Nodup) (onceSecond : (second.map Prod.fst).Nodup)
    (same : ∀ name, first.lookup name = second.lookup name) : first.Perm second :=
  (List.perm_ext_iff_of_nodup (.of_map Prod.fst once) (.of_map Prod.fst onceSecond)).mpr
    fun (name, a) => by rw [mem_iff_lookup once, mem_iff_lookup onceSecond, same]

/-- What is present fits the value, and where nothing is, the value is the standard one. -/
def Overlays {α : Type} (fits : Tree → α → Prop) (entry : Option Tree) (standard value : α) : Prop :=
  match entry with
  | some tree => fits tree value
  | none => value = standard

theorem Overlays.imp {α : Type} {fits tells : Tree → α → Prop} {entry : Option Tree}
    {standard value : α} (overlays : Overlays fits entry standard value)
    (told : ∀ tree, fits tree value → tells tree value) : Overlays tells entry standard value := by
  cases entry with
  | none => exact overlays
  | some tree => exact told tree overlays

/-- What stands at one place decides. -/
theorem Overlays.unique {α : Type} {meaning : Tree → Option α} {entry : Option Tree}
    {standard first second : α}
    (one : Overlays (fun entry value => meaning entry = some value) entry standard first)
    (other : Overlays (fun entry value => meaning entry = some value) entry standard second) :
    first = second := by
  cases entry with
  | none => exact Eq.trans one (Eq.symm other)
  | some tree => exact Option.some.inj (one.symm.trans other)

namespace Decoder

variable {α β σ τ : Type} {c : Cursor} {rest : Bytes} {decoder : Decoder α} {tree : Tree} {value : α}

/-! ## Members, one after the other -/

section Filling

variable {fields : List (Field σ)} {reads : Field σ → Tree → Option (σ → σ)}
  {keeps : Tree → Option (Option Value)} {members : List (List Piece × Tree)} {begun filled : Filled σ}

/-- What a member that is accepted does. -/
theorem fill_cases {member : List Piece × Tree}
    (step : fill fields reads keeps begun member = some filled) :
    ∃ key, spelled? member.1 = some key ∧
      ((∃ field put, fields.find? (·.name == key) = some field ∧ key ∉ begun.seen ∧
          reads field member.2 = some put ∧ filled = ⟨put begun.record, key :: begun.seen, begun.kept⟩) ∨
        fields.find? (·.name == key) = none ∧ ∃ value, keeps member.2 = some value ∧
          filled = ⟨begun.record, begun.seen,
            value.toList.map (fun value => (key, value)) ++ begun.kept⟩) := by
  rw [fill, Option.bind_eq_some_iff] at step
  obtain ⟨key, spelled, step⟩ := step
  refine ⟨key, spelled, ?_⟩
  cases found : fields.find? (·.name == key) with
  | some field =>
    simp only [found] at step
    split at step
    · cases step
    · rename_i fresh
      obtain ⟨put, read, rfl⟩ := Option.map_eq_some_iff.mp step
      exact .inl ⟨field, put, rfl, by simpa using fresh, read, rfl⟩
  | none =>
    simp only [found] at step
    obtain ⟨value, kept, rfl⟩ := Option.map_eq_some_iff.mp step
    exact .inr ⟨rfl, value, kept, rfl⟩

/-- The member in front, and those behind it. -/
theorem filling_cons {member : List Piece × Tree}
    (filling : (member :: members).foldlM (fill fields reads keeps) begun = some filled) :
    ∃ next, fill fields reads keeps begun member = some next ∧
      members.foldlM (fill fields reads keeps) next = some filled :=
  Option.bind_eq_some_iff.mp (by rwa [List.foldlM_cons] at filling)

theorem found_name {key : String} {field : Field σ} (found : fields.find? (·.name == key) = some field) :
    field.name = key := by simpa using List.find?_some found

/-- A field that has been seen is not named again. -/
private theorem seen_once {name : String} {field : Field σ}
    (known : fields.find? (·.name == name) = some field) (seen : name ∈ begun.seen)
    (filling : members.foldlM (fill fields reads keeps) begun = some filled) :
    ∀ member ∈ members, spelled? member.1 ≠ some name := by
  induction members generalizing begun with
  | nil => simp
  | cons member members ih =>
    obtain ⟨next, step, filling⟩ := filling_cons filling
    obtain ⟨key, spelled, ⟨_, put, found, fresh, -, rfl⟩ | ⟨unknown, value, -, rfl⟩⟩ := fill_cases step
    · refine List.forall_mem_cons.mpr ⟨fun same => ?_, ih (List.mem_cons_of_mem key seen) filling⟩
      cases spelled.symm.trans same
      exact fresh seen
    · refine List.forall_mem_cons.mpr ⟨fun same => ?_, ih ?_ filling⟩
      · cases spelled.symm.trans same
        cases unknown.symm.trans known
      · exact seen

/-- What is got from a record under one name. Every other field leaves it as it is. -/
structure Own (fields : List (Field σ)) (reads : Field σ → Tree → Option (σ → σ)) (name : String)
    (get : σ → β) (fits : Tree → β → Prop) : Prop where
  others : ∀ field ∈ fields, field.name ≠ name → ∀ tree put, tree.IsWritable →
    reads field tree = some put → ∀ record, get (put record) = get record
  fits : ∀ field, fields.find? (·.name == name) = some field → ∀ tree put, tree.IsWritable →
    reads field tree = some put → ∀ record, fits tree (get (put record))

variable {name : String} {get : σ → β} {fits : Tree → β → Prop}

private theorem untouched (own : Own fields reads name get fits)
    (written : ∀ member ∈ members, member.2.IsWritable)
    (absent : ∀ member ∈ members, spelled? member.1 ≠ some name)
    (filling : members.foldlM (fill fields reads keeps) begun = some filled) :
    get filled.record = get begun.record := by
  induction members generalizing begun with
  | nil =>
    cases filling
    rfl
  | cons member members ih =>
    obtain ⟨next, step, filling⟩ := filling_cons filling
    obtain ⟨writable, written⟩ := List.forall_mem_cons.mp written
    obtain ⟨other, absent⟩ := List.forall_mem_cons.mp absent
    rw [ih written absent filling]
    obtain ⟨key, spelled, ⟨field, put, found, -, read, rfl⟩ | ⟨-, value, -, rfl⟩⟩ := fill_cases step
    · have different : field.name ≠ name := by
        rintro rfl
        exact other (spelled.trans (congrArg some (found_name found).symm))
      exact own.others field (List.mem_of_find?_eq_some found) different _ _ writable read _
    · rfl

/-- What is got is what the first member of that name says, or what it was. -/
theorem filling_gives {field : Field σ} (known : fields.find? (·.name == name) = some field)
    (own : Own fields reads name get fits) (written : ∀ member ∈ members, member.2.IsWritable)
    (fresh : name ∉ begun.seen)
    (filling : members.foldlM (fill fields reads keeps) begun = some filled) :
    Overlays fits ((Tree.object members).member? name) (get begun.record) (get filled.record) := by
  induction members generalizing begun with
  | nil =>
    cases filling
    rfl
  | cons member members ih =>
    obtain ⟨next, step, filling⟩ := filling_cons filling
    obtain ⟨writable, written⟩ := List.forall_mem_cons.mp written
    rw [member_cons]
    obtain ⟨key, spelled, ⟨other, put, found, -, read, rfl⟩ | ⟨unknown, value, -, rfl⟩⟩ := fill_cases step
    · have held := List.mem_of_find?_eq_some found
      by_cases same : key = name
      · subst same
        rw [if_pos spelled]
        have absent := seen_once known List.mem_cons_self filling
        rw [untouched own written absent filling]
        exact own.fits other found _ _ writable read _
      · rw [if_neg (by simpa [spelled] using same)]
        have kept := own.others other held (found_name found ▸ same) _ _ writable read begun.record
        rw [← kept]
        exact ih written (by simpa [fresh] using Ne.symm same) filling
    · rw [if_neg fun same => by
        cases spelled.symm.trans same
        cases unknown.symm.trans known]
      have behind := ih written (by exact fresh) filling
      exact behind

end Filling

/-! ## One field -/

/-- Putting the value of the field in leaves what is got as it is. -/
def Field.Leaves (field : Field σ) (get : σ → β) : Prop :=
  ∀ depth (c after : Cursor) put, field.read depth c = .ok (put, after) →
    ∀ record, get (put record) = get record

theorem optional_read {name : String} {set : α → σ → σ} {depth : Nat} {put : σ → σ} {after : Cursor}
    (read : (Field.optional name decoder set).read depth c = .ok (put, after)) :
    ∃ value, decoder depth c = .ok (value, after) ∧ put = set value := by
  obtain ⟨⟨value, behind⟩, inner, same⟩ := bind_ok_iff.mp read
  cases same
  exact ⟨value, inner, rfl⟩

@[simp] theorem optional_leaves {name : String} {set : α → σ → σ} {get : σ → β}
    (leaves : ∀ value record, get (set value record) = get record) :
    (Field.optional name decoder set).Leaves get := by
  intro depth c after put read
  obtain ⟨value, -, rfl⟩ := optional_read read
  exact leaves value

/-- One field of the shape has the name, what it puts in is got, and no other field touches it. -/
structure Shape.Holds (shape : Shape σ) (name : String) (decoder : Decoder α) (get : σ → α) :
    Prop where
  field : ∃ set, shape.fields.find? (·.name == name) = some (.optional name decoder set) ∧
    ∀ value record, get (set value record) = value
  others : ∀ field ∈ shape.fields, field.name ≠ name → field.Leaves get

variable {shape : Shape σ} {members : List (List Piece × Tree)} {name : String} {get : σ → α}

/-- What a record holds under a name after all members is told by the member of that name alone. -/
theorem filling_overlays (holds : shape.Holds name decoder get) {depth : Nat}
    {reads : Field σ → Tree → Option (σ → σ)} {keeps : Tree → Option (Option Value)} {filled : Filled σ}
    (makes : ∀ field ∈ shape.fields, ∀ tree, Makes field.read depth tree (reads field tree))
    (written : ∀ member ∈ members, member.2.IsWritable)
    (filling : members.foldlM (fill shape.fields reads keeps) ⟨shape.blank, [], []⟩ = some filled) :
    Overlays (Takes decoder) ((Tree.object members).member? name) (get shape.blank)
      (get filled.record) := by
  obtain ⟨set, found, gets⟩ := holds.field
  have taken (field) (held : field ∈ shape.fields) (tree : Tree) (put) (writable : tree.IsWritable)
      (read : reads field tree = some put) :
      ∃ c after, tree.Stands c.rest [] ∧ field.read depth c = .ok (put, after) := by
    obtain ⟨c, stands⟩ := writable.stands
    obtain ⟨after, -, taken⟩ := read ▸ makes field held tree c [] stands
    exact ⟨c, after, stands, taken⟩
  have own : Own shape.fields reads name get (Takes decoder) := by
    constructor
    · intro field held other tree put writable read
      obtain ⟨c, after, -, taken⟩ := taken field held tree put writable read
      exact holds.others field held other depth c after put taken
    · intro field same tree put writable read record
      obtain rfl := Option.some.inj (found.symm.trans same)
      obtain ⟨c, after, stands, taken⟩ :=
        taken _ (List.mem_of_find?_eq_some found) tree put writable read
      obtain ⟨value, inner, rfl⟩ := optional_read taken
      rw [gets]
      exact ⟨depth, c, [], after, stands, inner⟩
  exact filling_gives found own written (by simp) filling

theorem record_overlays (sound : shape.IsSection) (holds : shape.Holds name decoder get) {value : σ}
    (taken : Takes (record shape) (.object members) value) :
    Overlays (Takes decoder) ((Tree.object members).member? name) (get shape.blank) (get value) := by
  obtain ⟨depth, c, rest, after, stands, read⟩ := taken
  rcases Nat.lt_or_ge depth 2 with shallow | deep
  · cases answers_read (record_shallow shape shallow _ c rest stands) read
  · obtain ⟨deeper, rfl⟩ := Nat.exists_eq_add_of_le' deep
    choose! reads makes using fun field held tree => sound.definite field held (deeper + 1) tree
    have answer := record_makes makes sound.mayMiss members c rest stands
    obtain ⟨filled, filling, rfl⟩ := Option.map_eq_some_iff.mp (answers_read answer read)
    exact filling_overlays holds makes stands.writable.members filling

/-! ## Members that belong to no field -/

/-- The pairs of an object are looked up like its members. -/
theorem lookup_pairs {reads : Tree → Option Value} {pairs : List (String × Value)}
    (each : members.mapM (pair? reads) = some pairs) (name : String) :
    match (Tree.object members).member? name with
    | some tree => ∃ value, reads tree = some value ∧ pairs.lookup name = some value
    | none => pairs.lookup name = none := by
  rw [values_iff] at each
  induction each with
  | nil => rfl
  | @cons member pair members pairs head _ ih =>
    obtain ⟨key, value⟩ := pair
    obtain ⟨spelled, read⟩ := pair_iff.mp head
    rw [member_cons, lookup_front]
    by_cases same : key = name
    · subst same
      rw [if_pos spelled, if_pos rfl]
      exact ⟨value, read, rfl⟩
    · rw [if_neg (by simpa [spelled] using same), if_neg same]
      exact ih

/-- What is kept of a member: its name and its plain value, if no field has the name. -/
noncomputable def extra? (fields : List (Field σ)) (depth : Nat) (member : List Piece × Tree) :
    Option (String × Value) :=
  (pair? (value? depth) member).filter fun pair => (fields.find? (·.name == pair.1)).isNone

theorem extra_iff {fields : List (Field σ)} {depth : Nat} {member : List Piece × Tree}
    {pair : String × Value} : extra? fields depth member = some pair ↔
      spelled? member.1 = some pair.1 ∧ value? depth member.2 = some pair.2 ∧
        fields.find? (·.name == pair.1) = none := by
  rw [extra?, Option.filter_eq_some_iff, pair_iff, Option.isNone_iff_eq_none, and_assoc]

/-- Every member has a name, and a value if it belongs to no field. -/
def Legible (fields : List (Field σ)) (depth : Nat) (members : List (List Piece × Tree)) : Prop :=
  ∀ member ∈ members, ∃ key, spelled? member.1 = some key ∧
    (fields.find? (·.name == key) = none → ∃ value, value? depth member.2 = some value)

theorem filling_keeps {fields : List (Field σ)} {reads : Field σ → Tree → Option (σ → σ)}
    {depth : Nat} {begun filled : Filled σ}
    (filling : members.foldlM (fill fields reads fun tree => (value? depth tree).map some) begun =
      some filled) :
    Legible fields depth members ∧
      filled.kept.reverse = begun.kept.reverse ++ members.filterMap (extra? fields depth) := by
  induction members generalizing begun with
  | nil =>
    cases filling
    simp [Legible]
  | cons member members ih =>
    obtain ⟨next, step, filling⟩ := filling_cons filling
    obtain ⟨legible, kept⟩ := ih filling
    obtain ⟨key, spelled, ⟨field, put, found, -, -, rfl⟩ | ⟨unknown, value, read, rfl⟩⟩ := fill_cases step
    · have none : extra? fields depth member = none := by
        refine Option.eq_none_iff_forall_ne_some.mpr fun pair some => ?_
        obtain ⟨named, -, unknown⟩ := extra_iff.mp some
        cases spelled.symm.trans named
        cases unknown.symm.trans found
      refine ⟨List.forall_mem_cons.mpr ⟨⟨key, spelled, ?_⟩, legible⟩, ?_⟩
      · simp [found]
      · rw [kept, List.filterMap_cons_none none]
    · obtain ⟨value, is, rfl⟩ := Option.map_eq_some_iff.mp read
      have some : extra? fields depth member = some (key, value) := extra_iff.mpr ⟨spelled, is, unknown⟩
      refine ⟨List.forall_mem_cons.mpr ⟨⟨key, spelled, fun _ => ⟨value, is⟩⟩, legible⟩, ?_⟩
      rw [kept, List.filterMap_cons_some some]
      simp

/-- What is kept under a name is the value of the first member of that name. -/
theorem lookup_extras {fields : List (Field σ)} {depth : Nat} (legible : Legible fields depth members)
    (unknown : fields.find? (·.name == name) = none) :
    (members.filterMap (extra? fields depth)).lookup name =
      ((Tree.object members).member? name).bind (value? depth) := by
  induction members with
  | nil => rfl
  | cons member members ih =>
    obtain ⟨⟨key, spelled, is⟩, legible⟩ := List.forall_mem_cons.mp legible
    rw [member_cons, List.filterMap_cons]
    by_cases same : key = name
    · subst same
      obtain ⟨value, is⟩ := is unknown
      have kept : extra? fields depth member = some (key, value) := extra_iff.mpr ⟨spelled, is, unknown⟩
      rw [kept, if_pos spelled]
      simp [is]
    · rw [if_neg (by simpa [spelled] using same)]
      cases kept : extra? fields depth member with
      | none => exact ih legible
      | some pair =>
        obtain ⟨named, -⟩ := extra_iff.mp kept
        cases spelled.symm.trans named
        simp [← ih legible, lookup_front, same]

theorem mem_extras_iff {fields : List (Field σ)} {depth : Nat} (legible : Legible fields depth members) :
    name ∈ (members.filterMap (extra? fields depth)).map Prod.fst ↔
      fields.find? (·.name == name) = none ∧ ∃ member ∈ members, spelled? member.1 = some name := by
  simp only [List.mem_map, List.mem_filterMap]
  constructor
  · rintro ⟨⟨_, value⟩, ⟨member, held, kept⟩, rfl⟩
    obtain ⟨spelled, -, unknown⟩ := extra_iff.mp kept
    exact ⟨unknown, member, held, spelled⟩
  · rintro ⟨unknown, member, held, spelled⟩
    obtain ⟨key, same, is⟩ := legible member held
    cases spelled.symm.trans same
    obtain ⟨value, is⟩ := is unknown
    exact ⟨(name, value), ⟨member, held, extra_iff.mpr ⟨spelled, is, unknown⟩⟩, rfl⟩

/-- An open record comes from an object: its fields are put in, and it is finished with the rest. -/
theorem open_record_parts {finish : σ → List (String × Value) → Except Cause τ} {tree : Tree}
    {value : τ} (sound : shape.IsSection) (taken : Takes (openRecord shape finish) tree value) :
    ∃ members record depth, tree = .object members ∧ Legible shape.fields depth members ∧
      finish record (members.filterMap (extra? shape.fields depth)) = .ok value ∧
      ∀ {α : Type} {decoder : Decoder α} {name : String} {get : σ → α},
        shape.Holds name decoder get →
          Overlays (Takes decoder) (tree.member? name) (get shape.blank) (get record) := by
  obtain ⟨depth, c, rest, after, stands, read⟩ := taken
  rcases Nat.lt_or_ge depth 2 with shallow | deep
  · cases answers_read (open_record_shallow shape finish shallow _ c rest stands) read
  · obtain ⟨deeper, rfl⟩ := Nat.exists_eq_add_of_le' deep
    choose! reads makes using fun field held tree => sound.definite field held (deeper + 1) tree
    cases tree with
    | object members =>
      have made := answers_read
        (open_record_makes makes (any_makes (deeper + 1)) sound.mayMiss members c rest stands) read
      obtain ⟨filled, filling, finished⟩ := Option.bind_eq_some_iff.mp made
      obtain ⟨legible, kept⟩ := filling_keeps filling
      rw [kept, List.reverse_nil, List.nil_append, to_option_iff] at finished
      exact ⟨members, filled.record, deeper + 1, rfl, legible, finished, fun holds =>
        filling_overlays holds makes stands.writable.members filling⟩
    | _ => cases answers_read (open_record_other (by simp) c rest stands) read

end Decoder
end Gatehouse.Json
