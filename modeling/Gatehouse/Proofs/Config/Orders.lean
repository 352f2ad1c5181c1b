import Gatehouse.Proofs.Config.Overlay
import Gatehouse.Proofs.Json.Acceptance
import Mathlib.Data.List.Infix

/-!
The configuration in another order. A document whose members are put into another order, at any
depth, is accepted as well, and the configuration is the same but for the order in which the sections
of scopes are listed.
-/
namespace Gatehouse
open Json Json.Tree Json.Decoder RateLimit

/-! ## Sections of scopes -/

namespace RateLimit.PolicyPatch

variable {tree other : Tree} {value another : Value} {depth : Nat} {key : String}
  {patch : PolicyPatch} {members : List (String × Value)} {seen : List String}

/-- A member that a patch takes. -/
def Suits (key : String) (value : Value) : Prop := ∃ next, put blank key value = .ok next

/-- Whether a member is taken has nothing to do with what the patch holds. -/
theorem put_iff : (∃ next, put patch key value = .ok next) ↔ Suits key value := by
  simp only [Suits, put]
  split
  · cases flag value <;> simp [bind, Except.bind, pure, Except.pure]
  · split
    · cases amount "u32" 4294967295 value <;> simp [bind, Except.bind, pure, Except.pure]
    · split
      · cases amount "u64" 18446744073709551615 value <;> simp [bind, Except.bind, pure, Except.pure]
      · simp [pure, Except.pure]

theorem put_all_iff : (∃ done, putAll members seen patch = .ok done) ↔
    (∀ member ∈ members, Suits member.1 member.2) ∧ ((members.map Prod.fst).filter isPart).Nodup ∧
      ∀ name ∈ (members.map Prod.fst).filter isPart, name ∉ seen := by
  induction members generalizing seen patch with
  | nil => simp [putAll]
  | cons member members ih =>
    obtain ⟨key, value⟩ := member
    have first : (∃ done, putAll ((key, value) :: members) seen patch = .ok done) ↔
        ¬ (key ∈ seen ∧ isPart key = true) ∧ Suits key value ∧
          ∃ done, putAll members (key :: seen) blank = .ok done := by
      constructor
      · rintro ⟨done, putting⟩
        obtain ⟨fresh, next, step, putting⟩ := put_all_cons.mp putting
        exact ⟨fresh, put_iff.mp ⟨next, step⟩, ih.mpr (ih.mp ⟨done, putting⟩)⟩
      · rintro ⟨fresh, suits, others⟩
        obtain ⟨next, step⟩ : ∃ next, put patch key value = .ok next := put_iff.mpr suits
        obtain ⟨done, putting⟩ : ∃ done, putAll members (key :: seen) next = .ok done :=
          ih.mpr (ih.mp others)
        exact ⟨done, put_all_cons.mpr ⟨fresh, next, step, putting⟩⟩
    rw [first, ih]
    simp only [List.forall_mem_cons, List.map_cons, List.filter_cons]
    by_cases part : isPart key = true
    · grind
    · grind

/-- What a part may be is neither a list nor an object. -/
theorem suits_scalar (suits : Suits key value) : isPart key = false ∨
    (∀ values, value ≠ .list values) ∧ ∀ pairs, value ≠ .object pairs := by
  obtain ⟨next, step⟩ := suits
  obtain ⟨-, _, read, -⟩ | ⟨-, _, read, -⟩ | ⟨-, _, read, -⟩ | ⟨notEnabled, notRequests, notWindow, -⟩ :=
    put_cases step
  · refine .inr ⟨?_, ?_⟩ <;> rintro _ rfl <;> cases read
  · refine .inr ⟨?_, ?_⟩ <;> rintro _ rfl <;> cases read
  · refine .inr ⟨?_, ?_⟩ <;> rintro _ rfl <;> cases read
  · refine .inl ?_
    simp [isPart, shape, Ne.symm notEnabled, Ne.symm notRequests, Ne.symm notWindow]

theorem suits_other (unknown : isPart key = false) (value : Value) : Suits key value := by
  simp only [isPart, shape, List.any_cons, optional_name, List.any_nil, Bool.or_false,
    Bool.or_eq_false_iff, beq_eq_false_iff_ne] at unknown
  obtain ⟨notEnabled, notRequests, notWindow⟩ := unknown
  exact ⟨blank, by
    rw [put, if_neg (Ne.symm notEnabled), if_neg (Ne.symm notRequests), if_neg (Ne.symm notWindow)]
    rfl⟩

theorem scalar_stays (reordered : Reordered tree other) (told : tree.Told value)
    (noList : ∀ values, value ≠ .list values) (noObject : ∀ pairs, value ≠ .object pairs) :
    other = tree := by
  cases told with
  | list => exact absurd rfl (noList _)
  | object => exact absurd rfl (noObject _)
  | _ =>
    cases reordered
    rfl

theorem suits_stays (reordered : Reordered tree other) (is : tree.value? depth = some value)
    (also : other.value? depth = some another) (suits : Suits key value) : Suits key another := by
  rcases suits_scalar suits with unknown | ⟨noList, noObject⟩
  · exact suits_other unknown another
  · obtain rfl := scalar_stays reordered (value_told is) noList noObject
    cases is.symm.trans also
    exact suits

/-- Parts are in the same order wherever they stand. -/
private theorem part_stays (reordered : Reordered tree other) (told : tree.Told value)
    (suits : Suits key value) (part : isPart key = true) : other = tree := by
  rcases suits_scalar suits with unknown | ⟨noList, noObject⟩
  · cases part.symm.trans unknown
  · exact scalar_stays reordered told noList noObject

/-- A section that is taken is taken in any other order of its members. -/
theorem of_value_stays (reordered : Reordered tree other) (is : tree.value? depth = some value)
    (also : other.value? depth = some another) (taken : ∃ patch, ofValue value = .ok patch) :
    ∃ patch, ofValue another = .ok patch := by
  obtain ⟨patch, taken⟩ := taken
  cases tree with
  | object members =>
    obtain ⟨others, rfl, names, sources⟩ := reordered.members
    obtain ⟨deeper, pairs, rfl, each, rfl⟩ := value_object_iff.mp is
    obtain ⟨_, otherPairs, same, eachOther, rfl⟩ := value_object_iff.mp also
    cases same
    obtain ⟨suits, distinct, -⟩ := put_all_iff.mp ⟨patch, taken⟩
    refine put_all_iff.mpr ⟨fun pair held => ?_, ?_, by simp⟩
    · obtain ⟨member, held, paired⟩ := (mem_values_iff eachOther).mp held
      obtain ⟨source, among, named, reordered⟩ := sources member held
      obtain ⟨spelled, now⟩ := pair_iff.mp paired
      obtain ⟨before, was⟩ := values_some.mp ⟨pairs, each⟩ source among
      obtain ⟨spelledBefore, wasValue⟩ := pair_iff.mp was
      have key : before.1 = pair.1 := Option.some.inj (spelledBefore.symm.trans (named ▸ spelled))
      have suited := suits before ((mem_values_iff each).mpr ⟨source, among, was⟩)
      exact suits_stays reordered wasValue now (key ▸ suited)
    · rw [names_of_pairs eachOther]
      rw [names_of_pairs each] at distinct
      exact ((names.filterMap spelled?).filter isPart).nodup_iff.mpr distinct
  | list items =>
    obtain ⟨others, rfl, each⟩ := reordered.items
    obtain ⟨deeper, values, rfl, mapped, rfl⟩ := value_list_iff.mp is
    obtain ⟨first, second, third, on, limit, seconds, rfl, toldOn, toldLimit, toldSeconds, putting⟩ :=
      three_values mapped taken
    obtain ⟨suits, -⟩ := put_all_iff.mp ⟨patch, putting⟩
    simp only [List.forall_mem_cons] at suits
    obtain ⟨suitsOn, suitsLimit, suitsSeconds, -⟩ := suits
    obtain ⟨_, _, firstStays, afterFirst, rfl⟩ := List.forall₂_cons_left_iff.mp each
    obtain ⟨_, _, secondStays, afterSecond, rfl⟩ := List.forall₂_cons_left_iff.mp afterFirst
    obtain ⟨_, _, thirdStays, afterThird, rfl⟩ := List.forall₂_cons_left_iff.mp afterSecond
    obtain rfl := List.forall₂_nil_left_iff.mp afterThird
    rw [part_stays firstStays toldOn suitsOn (by decide),
      part_stays secondStays toldLimit suitsLimit (by decide),
      part_stays thirdStays toldSeconds suitsSeconds (by decide)] at also
    cases also.symm.trans is
    exact ⟨patch, taken⟩
  | _ =>
    cases value_told is
    cases taken

end RateLimit.PolicyPatch
/-! ## Every section -/

theorem read_sections_iff {members : List (String × Value)} {sections : List (String × PolicyPatch)} :
    (∃ read, LimitsConfig.readSections members sections = .ok read) ↔
      ∀ entry ∈ members, ∃ patch, PolicyPatch.ofValue entry.2 = .ok patch := by
  induction members generalizing sections with
  | nil => simp [LimitsConfig.readSections]
  | cons member members ih =>
    rw [List.forall_mem_cons]
    constructor
    · rintro ⟨read, reading⟩
      obtain ⟨patch, taken, reading⟩ := LimitsConfig.read_sections_cons reading
      exact ⟨⟨patch, taken⟩, ih.mp ⟨read, reading⟩⟩
    · rintro ⟨⟨patch, taken⟩, others⟩
      obtain ⟨read, reading⟩ := ih.mpr others
      exact ⟨read, bind_ok_iff.mpr ⟨patch, taken, reading⟩⟩

section Fields

variable {σ : Type} {name : String}

theorem text_field_orders (set : String → σ → σ) : AllowsOrders (Field.optional name text set).read :=
  field_orders _ (text_definite _) (text_orders _) _

theorem bool_field_orders (set : Bool → σ → σ) : AllowsOrders (Field.optional name bool set).read :=
  field_orders _ bool_definite bool_orders _

theorem nat_field_orders {expected : String} {limit : Nat} (set : Nat → σ → σ)
    (fits : limit < 2 ^ 64) :
    AllowsOrders (Field.optional name (natUpTo expected limit) set).read :=
  field_orders _ (nat_definite _ fits) (nat_orders _ fits) _

theorem texts_field_orders (set : List String → σ → σ) :
    AllowsOrders (Field.optional name (list text) set).read :=
  field_orders _ (list_definite (text_definite _))
    (list_orders (fun depth tree => text_makes _ depth tree) text_ignores_order) _

theorem section_field_orders {τ : Type} {fields : Shape τ} (sound : fields.IsSection)
    (orders : ∀ field ∈ fields.fields, AllowsOrders field.read) (set : τ → σ → σ) :
    AllowsOrders (Field.optional name (record fields) set).read :=
  field_orders _ (record_definite sound) (record_orders sound orders) _

end Fields

theorem limits_orders : AllowsOrders LimitsConfig.decoder := by
  refine open_record_orders LimitsConfig.shape_sound ?_ (fun record kept => ?_)
    fun tree other reordered depth value another is also => PolicyPatch.of_value_stays reordered is also
  · simp only [LimitsConfig.shape, List.forall_mem_cons]
    exact ⟨field_orders _ (choice_definite _) (choice_orders _) _,
      nat_field_orders _ (by decide), by simp⟩
  · rw [← read_sections_iff]
    constructor
    · rintro ⟨value, finished⟩
      obtain ⟨read, reading, -⟩ := bind_ok_iff.mp finished
      exact ⟨read, reading⟩
    · rintro ⟨read, reading⟩
      exact ⟨_, bind_ok_iff.mpr ⟨read, reading, rfl⟩⟩

theorem compression_orders : ∀ field ∈ CompressionConfig.shape.fields, AllowsOrders field.read := by
  simp only [CompressionConfig.shape, List.forall_mem_cons]
  exact ⟨bool_field_orders _, nat_field_orders _ (by decide), by simp⟩

theorem cors_orders : ∀ field ∈ CorsConfig.shape.fields, AllowsOrders field.read := by
  simp only [CorsConfig.shape, List.forall_mem_cons]
  exact ⟨texts_field_orders _, texts_field_orders _, texts_field_orders _, texts_field_orders _,
    bool_field_orders _, nat_field_orders _ (by decide), by simp⟩

theorem metrics_orders : ∀ field ∈ MetricsConfig.shape.fields, AllowsOrders field.read := by
  simp only [MetricsConfig.shape, List.forall_mem_cons]
  exact ⟨bool_field_orders _, text_field_orders _, texts_field_orders _, by simp⟩

theorem server_orders : ∀ field ∈ ServerConfig.shape.fields, AllowsOrders field.read := by
  simp only [ServerConfig.shape, List.forall_mem_cons]
  exact ⟨text_field_orders _, nat_field_orders _ (by decide), nat_field_orders _ (by decide),
    nat_field_orders _ (by decide), nat_field_orders _ (by decide),
    section_field_orders compression_sound compression_orders _,
    section_field_orders cors_sound cors_orders _,
    field_orders _ (open_record_definite LimitsConfig.shape_sound _) limits_orders _,
    section_field_orders metrics_sound metrics_orders _, by simp⟩

theorem tokens_orders : ∀ field ∈ TokenConfig.shape.fields, AllowsOrders field.read := by
  simp only [TokenConfig.shape, List.forall_mem_cons]
  exact ⟨text_field_orders _, text_field_orders _, text_field_orders _, nat_field_orders _ (by decide),
    nat_field_orders _ (by decide), by simp⟩

theorem database_orders : ∀ field ∈ DatabaseConfig.shape.fields, AllowsOrders field.read := by
  simp only [DatabaseConfig.shape, List.forall_mem_cons]
  exact ⟨field_orders _ (optional_definite (text_definite _))
    (optional_orders (fun depth tree => text_makes _ depth tree) text_ignores_order) _,
    nat_field_orders _ (by decide), by simp⟩

namespace AppConfig

theorem redis_orders : ∀ field ∈ redisShape.fields, AllowsOrders field.read := by
  simp only [redisShape, List.forall_mem_cons]
  exact ⟨text_field_orders _, by simp⟩

theorem logger_orders : ∀ field ∈ loggerShape.fields, AllowsOrders field.read := by
  simp only [loggerShape, List.forall_mem_cons]
  exact ⟨text_field_orders _, by simp⟩

/-- A document that is accepted is accepted in any other order of members. -/
theorem document_orders : AllowsOrders (record shape) := by
  refine record_orders shape_sound ?_
  simp only [shape, List.forall_mem_cons]
  exact ⟨section_field_orders server_sound server_orders _,
    section_field_orders tokens_sound tokens_orders _, section_field_orders redis_sound redis_orders _,
    section_field_orders database_sound database_orders _,
    section_field_orders logger_sound logger_orders _, by simp⟩

/-! ## The same configuration -/

/-- The places at which something is read. -/
def IsPlace (path : List String) : Prop := IsSectionPath path ∨ path ∈ settings.map (·.path)

private theorem listed_above : ∀ path ∈ sectionPaths ++ settings.map (·.path), ∀ front ∈ path.inits,
    front = path ∨ front ∈ sectionPaths := by decide

/-- Above a place there are sections only. -/
theorem section_above {path front back : List String} (place : IsPlace path)
    (above : path = front ++ back) (proper : back ≠ []) : front ∈ sectionPaths := by
  have inits : front ∈ path.inits := (List.mem_inits front path).mpr ⟨back, above.symm⟩
  have shorter : front ≠ path := fun same => proper (by simpa [same] using above)
  rcases place with (listed | ⟨name, -, rfl⟩) | listed
  · exact (listed_above path (List.mem_append_left _ listed) front inits).resolve_left shorter
  · simp only [List.inits, List.map_cons, List.map_nil, List.mem_cons, List.not_mem_nil,
      or_false] at inits
    rcases inits with rfl | rfl | rfl | rfl
    · decide
    · decide
    · decide
    · exact absurd rfl shorter
  · exact (listed_above path (List.mem_append_right _ listed) front inits).resolve_left shorter

variable {tree other : Tree} {config changed : AppConfig} {path : List String}

theorem plain_at (plain : tree.HasPlainSections) (reordered : Reordered tree other)
    (place : IsPlace path) : Option.Rel Reordered (tree.at? path) (other.at? path) :=
  reordered.at fun front _ proper above entry found =>
    plain front (.inl (section_above place above proper)) entry found

theorem plain_reordered (plain : tree.HasPlainSections) (reordered : Reordered tree other) :
    other.HasPlainSections := by
  intro path listed entry found
  have related := plain_at plain reordered (.inl listed)
  rw [found] at related
  generalize here : tree.at? path = before at related
  cases related with
  | some inner => exact inner.distinct (plain path listed _ here)

theorem settings_ignore_order : ∀ setting ∈ settings, IgnoresOrder setting.meaning := by
  have backend : IgnoresOrder fun entry => entry.name?.bind fun name => StoreBackend.names.lookup name :=
    fun _ _ reordered => congrArg (Option.bind · _) (name_ignores_order reordered)
  simp [settings, text_ignores_order, nat_ignores_order, bool_ignores_order, backend,
    items_ignore_order text_ignores_order, or_null_ignores_order text_ignores_order]

/-- What is said at a place is the same in another order. -/
theorem overlays_same {α : Type} {meaning : Tree → Option α} {entry another : Option Tree}
    {standard first second : α} (ignores : IgnoresOrder meaning)
    (related : Option.Rel Reordered entry another)
    (one : Overlays (fun entry value => meaning entry = some value) entry standard first)
    (other : Overlays (fun entry value => meaning entry = some value) another standard second) :
    second = first := by
  cases related with
  | none => exact Eq.trans other (Eq.symm one)
  | some reordered => exact Option.some.inj (other.symm.trans ((ignores reordered).trans one))

theorem patched_same {given another : Tree} {patch changed : PolicyPatch}
    (reordered : Reordered given another) (distinct : given.HasDistinctNames)
    (one : PolicyPatch.Patched given patch)
    (other : PolicyPatch.Patched another changed) : changed = patch := by
  have related := reordered.member distinct
  obtain ⟨members, rfl⟩ := distinct.members
  obtain ⟨others, rfl, -⟩ := reordered.members
  obtain ⟨enabled, requests, window⟩ := patch
  obtain ⟨enabled', requests', window'⟩ := changed
  rw [PolicyPatch.mk.injEq]
  have flag := or_null_ignores_order bool_ignores_order
  have amount := or_null_ignores_order nat_ignores_order
  exact ⟨overlays_same flag (related "enabled") one.enabled other.enabled,
    overlays_same amount (related "requests") one.requests other.requests,
    overlays_same amount (related "window") one.window other.window⟩

theorem scopes_same (plain : tree.HasPlainSections) (reordered : Reordered tree other)
    (one : IsOverlay tree config) (another : IsOverlay other changed) :
    changed.server.limits.scopes.Perm config.server.limits.scopes := by
  refine perm_of_lookup another.once one.once fun name => ?_
  by_cases isScope : LimitsConfig.IsScopeName name
  · have listed : IsSectionPath ["server", "rate_limit", name] := .inr ⟨name, isScope, rfl⟩
    have related := plain_at plain reordered (.inl listed)
    have before := one.scopes name isScope
    have after := another.scopes name isScope
    generalize here : tree.at? ["server", "rate_limit", name] = given,
      other.at? ["server", "rate_limit", name] = givenNow at related before after
    cases related with
    | none => exact Eq.trans after (Eq.symm before)
    | some inner =>
      obtain ⟨patch, was, patched⟩ := before
      obtain ⟨patchNow, is, patchedNow⟩ := after
      rw [was, is, patched_same inner (plain _ listed _ here) patched patchedNow]
  · rw [one.others name isScope, another.others name isScope]

/-- In another order a document gives the same configuration, but for the order of scopes. -/
theorem reordered_document {depth : Nat} (plain : tree.HasPlainSections)
    (reordered : Reordered tree other) (writable : tree.IsWritable) (otherWritable : other.IsWritable)
    (made : Makes (record shape) depth tree (some config)) :
    ∃ scopes, scopes.Perm config.server.limits.scopes ∧
      Makes (record shape) depth other (some (config.withScopes scopes)) := by
  obtain ⟨changed, madeOther⟩ := document_orders reordered writable otherWritable depth ⟨config, made⟩
  have one := config_overlays plain (made.takes writable)
  have another := config_overlays (plain_reordered plain reordered) (madeOther.takes otherWritable)
  have same : changed = config.withScopes changed.server.limits.scopes :=
    determined_by_settings fun setting listed => overlays_same (settings_ignore_order setting listed)
      (plain_at plain reordered (.inr (List.mem_map_of_mem listed))) (one.settings setting listed)
      (another.settings setting listed)
  exact ⟨_, scopes_same plain reordered one another, same ▸ madeOther⟩

end AppConfig
end Gatehouse
