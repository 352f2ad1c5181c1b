import Gatehouse.Proofs.Json.Reordering
import Gatehouse.Proofs.Json.TreeFields

/-!
What a decoder accepts does not depend on the order of members. A record is accepted if each of its
members is, with no regard to the others but that no field is named twice; so its members may be put
into any order if the decoder of each field allows that.
-/
namespace Gatehouse.Json
open Cursor Json.Tree Decoder

/-! ## Plain values -/

namespace Tree

/-- A tree in another order has a plain value if it had one. -/
theorem Reordered.value {tree other : Tree} (reordered : Reordered tree other) {depth : Nat}
    (is : ∃ value, tree.value? depth = some value) : ∃ value, other.value? depth = some value := by
  induction reordered generalizing depth with
  | same => exact is
  | list pairs each ih =>
    obtain ⟨value, is⟩ := is
    obtain ⟨deeper, values, rfl, mapped, -⟩ := value_list_iff.mp is
    have valued := values_some.mp ⟨values, mapped⟩
    obtain ⟨others, mapped⟩ := values_some.mpr (List.forall_mem_map.mpr fun pair held =>
      ih pair held (valued _ (List.mem_map_of_mem held)))
    exact ⟨_, value_list_iff.mpr ⟨deeper, others, rfl, mapped, rfl⟩⟩
  | @object parts others each order ih =>
    obtain ⟨value, is⟩ := is
    obtain ⟨deeper, pairs, rfl, mapped, -⟩ := value_object_iff.mp is
    have paired := values_some.mp ⟨pairs, mapped⟩
    obtain ⟨pairsNow, mapped⟩ : ∃ pairs, others.mapM (pair? (value? (deeper + 1))) = some pairs := by
      refine values_some.mpr fun member held => ?_
      obtain ⟨part, among, rfl⟩ := List.mem_map.mp (order.mem_iff.mp held)
      obtain ⟨pair, was⟩ := paired _ (List.mem_map_of_mem among)
      obtain ⟨spelled, was⟩ := pair_iff.mp was
      obtain ⟨now, is⟩ := ih part among ⟨pair.2, was⟩
      exact ⟨(pair.1, now), pair_iff.mpr ⟨spelled, is⟩⟩
    exact ⟨_, value_object_iff.mpr ⟨deeper, pairsNow, rfl, mapped, rfl⟩⟩

end Tree

namespace Decoder

variable {α σ τ : Type} {decoder : Decoder α} {tree other : Tree} {depth : Nat}

/-! ## Decoders -/

/-- Something is made of the tree. -/
def Accepts (decoder : Decoder α) (depth : Nat) (tree : Tree) : Prop :=
  ∃ value, Makes decoder depth tree (some value)

theorem Accepts.is_some {value : Option α} (accepts : Accepts decoder depth tree)
    (writable : tree.IsWritable) (makes : Makes decoder depth tree value) :
    ∃ a, value = some a := by
  obtain ⟨a, made⟩ := accepts
  exact ⟨a, makes_unique writable makes made⟩

/-- What is accepted is accepted in any other order of members. -/
def AllowsOrders (decoder : Decoder α) : Prop :=
  ∀ ⦃tree other⦄, Reordered tree other → tree.IsWritable → other.IsWritable →
    ∀ depth, Accepts decoder depth tree → Accepts decoder depth other

theorem AllowsOrders.follows (orders : AllowsOrders decoder) {read : Tree → Option α}
    (makes : ∀ tree, Makes decoder depth tree (read tree)) (reordered : Reordered tree other)
    (writable : tree.IsWritable) (otherWritable : other.IsWritable) (is : ∃ a, read tree = some a) :
    ∃ a, read other = some a := by
  obtain ⟨a, is⟩ := is
  have accepts := orders reordered writable otherWritable depth ⟨a, is ▸ makes tree⟩
  exact accepts.is_some otherWritable (makes other)

/-- A decoder allows other orders if what it makes of a tree does not depend on them. -/
theorem orders_of_reading {read : Nat → Tree → Option α}
    (makes : ∀ depth tree, Makes decoder depth tree (read depth tree))
    (ignores : ∀ depth, IgnoresOrder (read depth)) : AllowsOrders decoder := by
  intro tree other reordered writable _ depth accepts
  obtain ⟨value, is⟩ := accepts.is_some writable (makes depth tree)
  refine ⟨value, ?_⟩
  rw [← is, ← ignores depth reordered]
  exact makes depth other

theorem text_orders (expected : String) : AllowsOrders (textAs expected) :=
  orders_of_reading (text_makes expected) fun _ => text_ignores_order

theorem bool_orders : AllowsOrders bool :=
  orders_of_reading bool_makes fun _ => bool_ignores_order

theorem nat_orders (expected : String) {limit : Nat} (fits : limit < 2 ^ 64) :
    AllowsOrders (natUpTo expected limit) :=
  orders_of_reading (nat_makes expected fits) fun _ _ _ reordered =>
    congrArg (Option.filter _) (nat_ignores_order reordered)

theorem optional_orders {read : Tree → Option α}
    (makes : ∀ depth tree, Makes decoder depth tree (read tree)) (ignores : IgnoresOrder read) : AllowsOrders (optional decoder) :=
  orders_of_reading (fun depth tree => optional_makes tree (makes depth tree)) fun _ =>
    or_null_ignores_order ignores

theorem choice_orders (known : List (String × α)) : AllowsOrders (choice known) := by
  refine orders_of_reading (choice_makes known) fun depth tree other reordered => ?_
  rw [text_ignores_order reordered, name_ignores_order reordered]

theorem list_orders {read : Tree → Option α}
    (makes : ∀ depth tree, Makes decoder depth tree (read tree)) (ignores : IgnoresOrder read) : AllowsOrders (list decoder) := by
  intro tree other reordered writable _ depth accepts
  rcases Nat.lt_or_ge depth 2 with shallow | deep
  · obtain ⟨_, wrong⟩ := accepts.is_some writable (list_shallow decoder shallow tree)
    cases wrong
  · obtain ⟨deeper, rfl⟩ := Nat.exists_eq_add_of_le' deep
    obtain ⟨values, is⟩ := accepts.is_some writable (list_makes (makes (deeper + 1)) tree)
    refine ⟨values, ?_⟩
    rw [← is, ← items_ignore_order ignores reordered]
    exact list_makes (makes (deeper + 1)) other

theorem field_orders (name : String) (definite : Definite decoder) (orders : AllowsOrders decoder)
    (set : α → σ → σ) : AllowsOrders (Field.optional name decoder set).read := by
  intro tree other reordered writable otherWritable depth accepts
  obtain ⟨value, makes⟩ := definite depth tree
  have put : Makes (Field.optional name decoder set).read depth tree (value.map set) :=
    fun c rest stands => answers_map set (makes c rest stands)
  obtain ⟨_, is⟩ := accepts.is_some writable put
  obtain ⟨a, rfl, -⟩ := Option.map_eq_some_iff.mp is
  obtain ⟨b, also⟩ := orders reordered writable otherWritable depth ⟨a, makes⟩
  exact ⟨set b, fun c rest stands => answers_map set (also c rest stands)⟩

/-! ## Members, each for itself -/

section Filling

variable {fields : List (Field σ)} {reads : Field σ → Tree → Option (σ → σ)}
  {keeps : Tree → Option (Option Value)} {begun filled : Filled σ}
  {member : List Piece × Tree} {members others : List (List Piece × Tree)}

/-- A member that is accepted by itself. -/
def IsGood (fields : List (Field σ)) (reads : Field σ → Tree → Option (σ → σ))
    (keeps : Tree → Option (Option Value)) (member : List Piece × Tree) : Prop :=
  ∃ key, spelled? member.1 = some key ∧
    (∀ field, fields.find? (·.name == key) = some field → ∃ put, reads field member.2 = some put) ∧
    (fields.find? (·.name == key) = none → ∃ value, keeps member.2 = some value)

/-- The field that a name belongs to. -/
def fieldNamed? (fields : List (Field σ)) (name : List Piece) : Option String :=
  (spelled? name).filter fun key => (fields.find? (·.name == key)).isSome

theorem field_named {name : List Piece} {key : String} {field : Field σ}
    (spelled : spelled? name = some key)
    (found : fields.find? (·.name == key) = some field) : fieldNamed? fields name = some key := by
  rw [fieldNamed?, spelled, Option.filter_some, found]
  rfl

theorem no_field_named {name : List Piece} {key : String} (spelled : spelled? name = some key)
    (unknown : fields.find? (·.name == key) = none) : fieldNamed? fields name = none := by
  rw [fieldNamed?, spelled, Option.filter_some, unknown]
  rfl

theorem fill_good (step : fill fields reads keeps begun member = some filled) :
    IsGood fields reads keeps member ∧
      (∀ name ∈ fieldNamed? fields member.1, name ∉ begun.seen) ∧
      filled.seen = (fieldNamed? fields member.1).toList ++ begun.seen := by
  obtain ⟨key, spelled, ⟨field, put, found, fresh, read, rfl⟩ | ⟨unknown, value, kept, rfl⟩⟩ :=
    fill_cases step
  · rw [field_named spelled found]
    refine ⟨⟨key, spelled, ?_, ?_⟩, ?_, rfl⟩
    · intro other also
      cases found.symm.trans also
      exact ⟨put, read⟩
    · simp [found]
    · simpa using fresh
  · rw [no_field_named spelled unknown]
    exact ⟨⟨key, spelled, by simp [unknown], fun _ => ⟨value, kept⟩⟩, by simp, rfl⟩

theorem good_fills (good : IsGood fields reads keeps member)
    (fresh : ∀ name ∈ fieldNamed? fields member.1, name ∉ begun.seen) :
    ∃ next, fill fields reads keeps begun member = some next := by
  obtain ⟨key, spelled, known, unknown⟩ := good
  rw [fill, spelled]
  simp only [Option.bind_some]
  cases found : fields.find? (·.name == key) with
  | some field =>
    obtain ⟨put, read⟩ := known field found
    have unseen := fresh key (field_named spelled found)
    simp [unseen, read]
  | none =>
    obtain ⟨value, kept⟩ := unknown found
    simp [kept]

/-- Members are accepted if each is good and no field is named twice. -/
theorem filling_iff : (∃ filled, members.foldlM (fill fields reads keeps) begun = some filled) ↔
    (∀ member ∈ members, IsGood fields reads keeps member) ∧
      ((members.map Prod.fst).filterMap (fieldNamed? fields)).Nodup ∧
      ∀ name ∈ (members.map Prod.fst).filterMap (fieldNamed? fields), name ∉ begun.seen := by
  induction members generalizing begun with
  | nil => simp
  | cons member members ih =>
    have names : ((member :: members).map Prod.fst).filterMap (fieldNamed? fields) =
        (fieldNamed? fields member.1).toList ++
          (members.map Prod.fst).filterMap (fieldNamed? fields) := by
      rw [List.map_cons, List.filterMap_cons]
      cases fieldNamed? fields member.1 <;> rfl
    rw [names, List.forall_mem_cons, List.nodup_append, List.forall_mem_append]
    constructor
    · rintro ⟨filled, filling⟩
      obtain ⟨next, step, filling⟩ := filling_cons filling
      obtain ⟨good, fresh, seen⟩ := fill_good step
      obtain ⟨goods, distinct, apart⟩ := ih.mp ⟨filled, filling⟩
      simp only [seen, List.mem_append, not_or] at apart
      refine ⟨⟨good, goods⟩, ⟨?_, distinct, ?_⟩, by simpa using fresh,
        fun name held => (apart name held).2⟩
      · cases fieldNamed? fields member.1 <;> simp
      · rintro name first _ held rfl
        exact (apart name held).1 first
    · rintro ⟨⟨good, goods⟩, ⟨-, distinct, apart⟩, fresh, freshOthers⟩
      obtain ⟨next, step⟩ : ∃ next, fill fields reads keeps begun member = some next :=
        good_fills good (by simpa using fresh)
      obtain ⟨-, -, seen⟩ := fill_good step
      obtain ⟨filled, filling⟩ : ∃ filled, members.foldlM (fill fields reads keeps) next = some filled :=
        ih.mpr ⟨goods, distinct, fun name held => by
          rw [seen, List.mem_append, not_or]
          exact ⟨fun first => apart name first name held rfl, freshOthers name held⟩⟩
      exact ⟨filled, by rw [List.foldlM_cons, step]; exact filling⟩

/-- Members are accepted in any order, and any of them may be replaced by one that is good if it was. -/
theorem filling_orders (names : (others.map Prod.fst).Perm (members.map Prod.fst))
    (each : (∀ member ∈ members, IsGood fields reads keeps member) →
      ∀ member ∈ others, IsGood fields reads keeps member)
    (filling : members.foldlM (fill fields reads keeps) begun = some filled) :
    ∃ filled, others.foldlM (fill fields reads keeps) begun = some filled := by
  obtain ⟨goods, distinct, fresh⟩ := filling_iff.mp ⟨filled, filling⟩
  have named := names.filterMap (fieldNamed? fields)
  exact filling_iff.mpr ⟨each goods, named.nodup_iff.mpr distinct, fun name held =>
    fresh name (named.mem_iff.mp held)⟩

end Filling

/-! ## Records -/

theorem fill_items_orders {shape : Shape σ} {reads : Field σ → Tree → Option (σ → σ)}
    {fields : List (Field σ)} {items others : List Tree}
    (each : List.Forall₂ (fun item other => ∀ field ∈ fields, (∃ put, reads field item = some put) →
      ∃ put, reads field other = some put) items others) {record : σ}
    (filled : ∃ value, fillItems shape reads fields record items = some value) (another : σ) :
    ∃ value, fillItems shape reads fields another others = some value := by
  induction fields generalizing items others record another with
  | nil =>
    cases each with
    | nil => exact ⟨another, rfl⟩
    | cons =>
      obtain ⟨_, nothing⟩ := filled
      cases nothing
  | cons field fields ih =>
    cases each with
    | nil =>
      rw [fillItems] at filled ⊢
      split at filled
      · exact ⟨another, if_pos ‹_›⟩
      · obtain ⟨_, nothing⟩ := filled
        cases nothing
    | cons first each =>
      obtain ⟨value, filled⟩ := filled
      rw [fillItems, Option.bind_eq_some_iff] at filled
      obtain ⟨put, read, filled⟩ := filled
      obtain ⟨also, reads⟩ := first field List.mem_cons_self ⟨put, read⟩
      rw [fillItems, reads]
      exact ih (each.imp fun _ _ allows field held => allows field (List.mem_cons_of_mem _ held))
        ⟨value, filled⟩ (also another)

theorem record_orders {shape : Shape σ} (sound : shape.IsSection)
    (orders : ∀ field ∈ shape.fields, AllowsOrders field.read) : AllowsOrders (record shape) := by
  intro tree other reordered writable otherWritable depth accepts
  rcases Nat.lt_or_ge depth 2 with shallow | deep
  · obtain ⟨_, wrong⟩ := accepts.is_some writable (record_shallow shape shallow tree)
    cases wrong
  obtain ⟨deeper, rfl⟩ := Nat.exists_eq_add_of_le' deep
  choose! reads makes using fun field held tree => sound.definite field held (deeper + 1) tree
  cases tree with
  | object members =>
    obtain ⟨others, rfl, names, sources⟩ := reordered.members
    obtain ⟨_, made⟩ := accepts.is_some writable (record_makes makes sound.mayMiss members)
    obtain ⟨filled, filling, -⟩ := Option.map_eq_some_iff.mp made
    obtain ⟨another, filling⟩ := filling_orders names (fun goods member held => by
      obtain ⟨source, among, same, reordered⟩ := sources member held
      obtain ⟨key, spelled, known, -⟩ := goods source among
      refine ⟨key, same ▸ spelled, fun field found => ?_, fun _ => ⟨none, rfl⟩⟩
      have listed := List.mem_of_find?_eq_some found
      exact (orders field listed).follows (makes field listed) reordered
        (writable.members source among) (otherWritable.members member held) (known field found)) filling
    exact ⟨another.record, by simpa [filling] using record_makes makes sound.mayMiss others⟩
  | list items =>
    obtain ⟨others, rfl, each⟩ := reordered.items
    obtain ⟨long, pairs⟩ := List.forall₂_iff_zip.mp each
    obtain ⟨value, filled⟩ := fill_items_orders
      (List.forall₂_iff_zip.mpr ⟨long, fun {item another} zipped field held => by
        obtain ⟨among, amongOthers⟩ := List.of_mem_zip zipped
        exact (orders field held).follows (makes field held) (pairs zipped)
          (writable.items item among) (otherWritable.items another amongOthers)⟩)
      (accepts.is_some writable (record_list_makes makes items)) shape.blank
    exact ⟨value, filled ▸ record_list_makes makes others⟩
  | _ =>
    obtain ⟨_, wrong⟩ := accepts.is_some writable (record_other (by simp) (by simp))
    cases wrong

/-- What is kept of a member in another order was kept, before, of the member it comes from. -/
theorem extra_source {fields : List (Field σ)} {members others : List (List Piece × Tree)}
    (legible : Legible fields depth members)
    (sources : ∀ member ∈ others, ∃ source ∈ members, source.1 = member.1 ∧ Reordered source.2 member.2)
    {entry : String × Value} (held : entry ∈ others.filterMap (extra? fields depth)) :
    ∃ part whole value, Reordered part whole ∧ part.value? depth = some value ∧
      whole.value? depth = some entry.2 ∧
      (entry.1, value) ∈ members.filterMap (extra? fields depth) := by
  obtain ⟨member, held, kept⟩ := List.mem_filterMap.mp held
  obtain ⟨spelled, is, unknown⟩ := extra_iff.mp kept
  obtain ⟨source, among, same, reordered⟩ := sources member held
  obtain ⟨key, spelledSource, valued⟩ := legible source among
  cases spelled.symm.trans (same ▸ spelledSource)
  obtain ⟨value, was⟩ := valued unknown
  exact ⟨source.2, member.2, value, reordered, was, is, List.mem_filterMap.mpr
    ⟨source, among, extra_iff.mpr ⟨spelledSource, was, unknown⟩⟩⟩

/-- An open record that is finished with its unknown members if it welcomes the value of each. -/
theorem open_record_orders {shape : Shape σ} (sound : shape.IsSection)
    (orders : ∀ field ∈ shape.fields, AllowsOrders field.read)
    {finish : σ → List (String × Value) → Except Cause τ} {welcome : Value → Prop}
    (finishes : ∀ record kept, (∃ value, finish record kept = .ok value) ↔
      ∀ entry ∈ kept, welcome entry.2)
    (stays : ∀ ⦃tree other⦄, Reordered tree other → ∀ depth value another,
      tree.value? depth = some value → other.value? depth = some another →
        welcome value → welcome another) : AllowsOrders (openRecord shape finish) := by
  intro tree other reordered writable otherWritable depth accepts
  rcases Nat.lt_or_ge depth 2 with shallow | deep
  · obtain ⟨_, wrong⟩ := accepts.is_some writable (open_record_shallow shape finish shallow tree)
    cases wrong
  obtain ⟨deeper, rfl⟩ := Nat.exists_eq_add_of_le' deep
  choose! reads makes using fun field held tree => sound.definite field held (deeper + 1) tree
  cases tree with
  | object members =>
    obtain ⟨others, rfl, names, sources⟩ := reordered.members
    obtain ⟨value, made⟩ := accepts.is_some writable
      (open_record_makes makes (any_makes (deeper + 1)) sound.mayMiss members)
    obtain ⟨filled, filling, finished⟩ := Option.bind_eq_some_iff.mp made
    obtain ⟨legible, kept⟩ := filling_keeps filling
    rw [List.reverse_nil, List.nil_append] at kept
    obtain ⟨another, filling⟩ := filling_orders names (fun goods member held => by
      obtain ⟨source, among, same, reordered⟩ := sources member held
      obtain ⟨key, spelled, known, unknown⟩ := goods source among
      refine ⟨key, same ▸ spelled, fun field found => ?_, fun absent => ?_⟩
      · have listed := List.mem_of_find?_eq_some found
        exact (orders field listed).follows (makes field listed) reordered
          (writable.members source among) (otherWritable.members member held) (known field found)
      · obtain ⟨plain, is⟩ := unknown absent
        obtain ⟨first, is, -⟩ := Option.map_eq_some_iff.mp is
        obtain ⟨second, is⟩ := reordered.value ⟨first, is⟩
        exact ⟨some second, congrArg (Option.map some) is⟩) filling
    obtain ⟨-, keptOthers⟩ := filling_keeps filling
    rw [List.reverse_nil, List.nil_append] at keptOthers
    have welcomed := (finishes _ _).mp ⟨value, to_option_iff.mp finished⟩
    obtain ⟨result, finished⟩ := (finishes another.record another.kept.reverse).mpr fun entry held => by
      obtain ⟨part, whole, first, reordered, was, is, before⟩ :=
        extra_source legible sources (keptOthers ▸ held)
      exact stays reordered _ first entry.2 was is (welcomed _ (kept ▸ before))
    refine ⟨result, ?_⟩
    rw [← to_option_iff.mpr finished, ← Option.bind_some another fun filled =>
      (finish filled.record filled.kept.reverse).toOption, ← filling]
    exact open_record_makes makes (any_makes (deeper + 1)) sound.mayMiss others
  | _ =>
    obtain ⟨_, wrong⟩ := accepts.is_some writable (open_record_other (by simp))
    cases wrong

end Decoder
end Gatehouse.Json
