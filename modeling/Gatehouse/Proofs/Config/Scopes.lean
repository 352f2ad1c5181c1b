import Gatehouse.Config.Limits
import Gatehouse.Proofs.RateLimit.Patches
import Mathlib.Data.List.Sort
import Mathlib.Data.String.Basic

/-!
Sections of scopes. In the limiter section every name other than the two settings of the store names a
scope. Such a name is either the code of one of the scopes or reported once, and what a scope is given
is told by the last section under its own code.
-/
namespace Gatehouse
open Json Json.Tree Json.Decoder RateLimit

namespace LimitsConfig

variable {sections read : List (String × PolicyPatch)} {name : String}

/-! ## The table of sections -/

theorem lookup_put (patch : PolicyPatch) (sections : List (String × PolicyPatch)) (name other : String) :
    (putSection name patch sections).lookup other =
      if name = other then some patch else sections.lookup other := by
  induction sections with
  | nil => rw [putSection, lookup_front]
  | cons entry sections ih =>
    obtain ⟨known, old⟩ := entry
    rw [putSection]
    by_cases here : known = name
    · subst here
      by_cases same : known = other <;> simp [lookup_front, same]
    · rw [if_neg here, lookup_front, lookup_front, ih]
      by_cases same : known = other
      · subst same
        simp [Ne.symm here]
      · simp [same]

theorem names_put (patch : PolicyPatch) (sections : List (String × PolicyPatch)) (name : String) :
    (putSection name patch sections).map Prod.fst =
      if name ∈ sections.map Prod.fst then sections.map Prod.fst
      else sections.map Prod.fst ++ [name] := by
  induction sections with
  | nil => rfl
  | cons entry sections ih =>
    obtain ⟨known, old⟩ := entry
    rw [putSection]
    by_cases here : known = name
    · simp [here]
    · rw [if_neg here, List.map_cons, ih]
      by_cases later : name ∈ sections.map Prod.fst <;> simp [later, Ne.symm here]

theorem names_put_nodup {patch : PolicyPatch} (distinct : (sections.map Prod.fst).Nodup) :
    ((putSection name patch sections).map Prod.fst).Nodup := by
  rw [names_put]
  split
  · exact distinct
  · rename_i fresh
    exact List.nodup_append.mpr ⟨distinct, by simp, by grind⟩

variable {members : List (String × Value)}

theorem read_sections_cons {value : Value}
    (reading : readSections ((name, value) :: members) sections = .ok read) :
    ∃ patch, PolicyPatch.ofValue value = .ok patch ∧
      readSections members (putSection name patch sections) = .ok read :=
  bind_ok_iff.mp reading

/-- After all members a name has the section of the last of them, or the one it had. -/
theorem read_sections_lookup (reading : readSections members sections = .ok read) (name : String) :
    match members.reverse.lookup name with
    | some value => ∃ patch, PolicyPatch.ofValue value = .ok patch ∧ read.lookup name = some patch
    | none => read.lookup name = sections.lookup name := by
  induction members generalizing sections with
  | nil =>
    cases reading
    rfl
  | cons member members ih =>
    obtain ⟨patch, taken, reading⟩ := read_sections_cons reading
    have behind := ih reading
    rw [List.reverse_cons, List.lookup_append]
    cases later : members.reverse.lookup name with
    | some value =>
      rw [later] at behind
      exact behind
    | none =>
      rw [later, lookup_put] at behind
      rw [Option.none_or, lookup_front]
      by_cases same : member.1 = name
      · rw [if_pos same] at behind ⊢
        exact ⟨patch, taken, behind⟩
      · rw [if_neg same] at behind ⊢
        exact behind

theorem read_sections_names (reading : readSections members sections = .ok read)
    (distinct : (sections.map Prod.fst).Nodup) :
    (read.map Prod.fst).Nodup ∧ ∀ name, name ∈ read.map Prod.fst ↔
      name ∈ sections.map Prod.fst ∨ name ∈ members.map Prod.fst := by
  induction members generalizing sections with
  | nil =>
    cases reading
    exact ⟨distinct, by simp⟩
  | cons member members ih =>
    obtain ⟨patch, -, reading⟩ := read_sections_cons reading
    obtain ⟨once, named⟩ := ih reading (names_put_nodup distinct)
    refine ⟨once, fun name => ?_⟩
    rw [named, names_put]
    by_cases known : member.1 ∈ sections.map Prod.fst
    · rw [if_pos known, List.map_cons, List.mem_cons]
      constructor
      · exact Or.imp_right .inr
      · rintro (held | rfl | held)
        · exact .inl held
        · exact .inl known
        · exact .inr held
    · rw [if_neg known, List.mem_append, List.mem_singleton, List.map_cons, List.mem_cons, or_assoc]

/-! ## Sections by their trees -/

/-- A name that is no setting of the store. -/
def IsScopeName (name : String) : Prop := name ≠ "backend" ∧ name ≠ "store_timeout_ms"

instance (name : String) : Decidable (IsScopeName name) := inferInstanceAs (Decidable (_ ∧ _))

end LimitsConfig

open LimitsConfig

namespace Json.Tree

/-- The names of the sections of scopes. -/
def NamesScope (tree : Tree) (name : String) : Prop :=
  IsScopeName name ∧ ∃ members, tree = .object members ∧
    ∃ member ∈ members, spelled? member.1 = some name

/-- The section of a name: the last member that has it. -/
def section? (name : String) : Tree → Option Tree
  | .object members => (Tree.object members.reverse).member? name
  | _ => none

end Json.Tree

namespace LimitsConfig

variable {tree : Tree} {config : LimitsConfig}

theorem shape_sound : shape.IsSection where
  definite := by
    simp only [shape, List.forall_mem_cons]
    exact ⟨field_definite _ (choice_definite _) _, field_definite _ (nat_definite _ (by decide)) _,
      by simp⟩
  mayMiss := by simp [shape, Field.optional]

theorem unknown_iff (name : String) :
    shape.fields.find? (·.name == name) = none ↔ IsScopeName name := by
  simp [shape, Field.optional, IsScopeName, @eq_comm _ name]

/-- What the sections of a limiter section are. -/
structure Sectioned (tree : Tree) (scopes : List (String × PolicyPatch)) : Prop where
  once : (scopes.map Prod.fst).Nodup
  named : ∀ name, name ∈ scopes.map Prod.fst ↔ tree.NamesScope name
  told : ∀ name, IsScopeName name →
    match tree.section? name with
    | some given => ∃ patch, scopes.lookup name = some patch ∧ PolicyPatch.Patched given patch
    | none => scopes.lookup name = none

theorem sectioned (taken : Takes decoder tree config) : Sectioned tree config.scopes := by
  obtain ⟨members, record, depth, rfl, legible, finished, -⟩ := open_record_parts shape_sound taken
  obtain ⟨read, reading, same⟩ := bind_ok_iff.mp finished
  cases same
  obtain ⟨once, named⟩ := read_sections_names reading (by simp)
  have backwards : Legible shape.fields depth members.reverse :=
    fun member held => legible member (List.mem_reverse.mp held)
  refine ⟨once, fun name => ?_, fun name scopeName => ?_⟩
  · rw [named, mem_extras_iff legible, unknown_iff]
    simp [NamesScope]
  · have looked := read_sections_lookup reading name
    rw [← List.filterMap_reverse, lookup_extras backwards ((unknown_iff name).mpr scopeName)] at looked
    rw [section?]
    cases present : (Tree.object members.reverse).member? name with
    | none =>
      rw [present] at looked
      exact looked
    | some given =>
      obtain ⟨member, held, spelled, rfl⟩ := member_held present
      obtain ⟨key, same, valued⟩ := backwards member held
      cases spelled.symm.trans same
      obtain ⟨value, is⟩ := valued ((unknown_iff name).mpr scopeName)
      rw [present, Option.bind_some, is] at looked
      obtain ⟨patch, taken, looked⟩ := looked
      exact ⟨patch, looked, PolicyPatch.patched (value_told is) taken⟩

/-! ## Policies -/

/-- What is present and not null is chosen, and otherwise the standard. -/
def Chosen {α : Type} (entry : Option Tree) (meaning : Tree → Option α) (standard value : α) : Prop :=
  match entry with
  | none | some .null => value = standard
  | some tree => meaning tree = some value

theorem chosen {α : Type} {entry : Option Tree} {meaning : Tree → Option α} {given : Option α}
    (gives : PolicyPatch.Gives entry meaning given) (standard : α) :
    Chosen entry meaning standard (given.getD standard) := by
  cases entry with
  | none =>
    obtain rfl : given = none := gives
    rfl
  | some tree =>
    cases tree with
    | null =>
      cases gives
      rfl
    | _ =>
      obtain ⟨value, read, rfl⟩ := Option.map_eq_some_iff.mp gives
      exact read

theorem Chosen.unique {α : Type} {entry : Option Tree} {meaning : Tree → Option α}
    {standard first second : α} (one : Chosen entry meaning standard first)
    (other : Chosen entry meaning standard second) : first = second := by
  cases entry with
  | none => exact one.trans other.symm
  | some tree =>
    cases tree with
    | null => exact one.trans other.symm
    | _ => exact Option.some.inj (one.symm.trans other)

/-- A window in seconds, in the unit of the clock. -/
def seconds? (tree : Tree) : Option Nanos := tree.nat?.map (· * 1_000_000_000)

/-- The policy is what the section gives, and the standard where it gives nothing. -/
structure Follows (given : Option Tree) (standard policy : Policy) : Prop where
  enabled : Chosen (given.bind (part? "enabled" 0)) bool? standard.enabled policy.enabled
  limit : Chosen (given.bind (part? "requests" 1)) nat? standard.limit policy.limit
  window : Chosen (given.bind (part? "window" 2)) seconds? standard.window policy.window

theorem Follows.unique {given : Option Tree} {standard first second : Policy}
    (one : Follows given standard first) (other : Follows given standard second) : first = second := by
  obtain ⟨enabled, limit, window⟩ := one
  obtain ⟨enabled', limit', window'⟩ := other
  cases first
  cases second
  simp only [Policy.mk.injEq]
  exact ⟨enabled.unique enabled', limit.unique limit', window.unique window'⟩

theorem code_is_scope_name (scope : Scope) : IsScopeName scope.code := by
  cases scope <;> decide

theorem policy_follows (given : Sectioned tree config.scopes) (scope : Scope) :
    Follows (tree.section? scope.code) (Policy.builtIn scope) (config.policy scope) := by
  have told := given.told scope.code (code_is_scope_name scope)
  cases present : tree.section? scope.code with
  | none =>
    rw [present] at told
    rw [policy, told]
    exact ⟨rfl, rfl, rfl⟩
  | some given =>
    rw [present] at told
    obtain ⟨patch, looked, patched⟩ := told
    rw [policy, looked]
    exact ⟨chosen patched.enabled _, chosen patched.requests _,
      chosen (patched.window.map (· * 1_000_000_000)) _⟩

/-! ## Unknown scopes -/

/-- No scope has the code. -/
def IsStrange (name : String) : Prop := ∀ scope : Scope, scope.code ≠ name

theorem listed_scope (scope : Scope) : scope ∈ Scope.all := by cases scope <;> decide

instance (name : String) : Decidable (IsStrange name) :=
  decidable_of_iff (∀ scope ∈ Scope.all, scope.code ≠ name)
    ⟨fun strange scope => strange scope (listed_scope scope), fun strange scope _ => strange scope⟩

/-- Reading a name is the inverse of writing it. -/
theorem of_code_iff {name : String} {scope : Scope} :
    Scope.ofCode name = .ok scope ↔ scope.code = name := by
  constructor
  · intro read
    unfold Scope.ofCode at read
    split at read <;> cases read <;> rfl
  · rintro rfl
    cases scope <;> rfl

theorem of_code_strange (name : String) :
    (∃ scope, Scope.ofCode name = .ok scope ∧ ¬ IsStrange name) ∨
      Scope.ofCode name = .error (.unknownScope name) ∧ IsStrange name := by
  cases read : Scope.ofCode name with
  | ok scope => exact .inl ⟨scope, rfl, fun strange => strange scope (of_code_iff.mp read)⟩
  | error error =>
    have unknown : error = .unknownScope name := by
      unfold Scope.ofCode at read
      split at read <;> cases read
      rfl
    refine .inr ⟨congrArg Except.error unknown, fun scope named => ?_⟩
    rw [of_code_iff.mpr named] at read
    cases read

theorem append_le_iff (front first second : String) :
    front ++ first ≤ front ++ second ↔ first ≤ second := by
  have chars (front a b : List Char) : front ++ a < front ++ b ↔ a < b := by
    induction front with
    | nil => exact Iff.rfl
    | cons c front ih => rwa [List.cons_append, List.cons_append, List.cons_lt_cons_self]
  rw [← not_lt, ← not_lt, String.lt_iff_toList_lt, String.lt_iff_toList_lt, String.toList_append,
    String.toList_append, chars]

/-- The wordings are ordered like the names. -/
theorem message_le_iff (first second : String) :
    (LimitError.unknownScope first).message ≤ (LimitError.unknownScope second).message ↔
      first ≤ second := append_le_iff _ first second

/-- What is wrong with the name of a section, if it names no scope. -/
def complaint? (name : String) : Option LimitError :=
  match Scope.ofCode name with
  | .error error => some error
  | .ok _ => none

theorem complaint_strange (name : String) :
    complaint? name = if IsStrange name then some (.unknownScope name) else none := by
  rcases of_code_strange name with ⟨scope, known, familiar⟩ | ⟨unknown, strange⟩
  · rw [complaint?, known, if_neg familiar]
  · rw [complaint?, unknown, if_pos strange]

/-- The names that are reported, in order. -/
theorem unknown_scopes_listed (once : (config.scopes.map Prod.fst).Nodup) :
    ∃ names : List String, config.unknownScopes = names.map .unknownScope ∧
      names.Pairwise (· < ·) ∧
      ∀ name, name ∈ names ↔ name ∈ config.scopes.map Prod.fst ∧ IsStrange name := by
  have reported (scopes : List (String × PolicyPatch)) :
      (scopes.filterMap fun entry => complaint? entry.1) =
      ((scopes.map Prod.fst).filter fun name => decide (IsStrange name)).map .unknownScope := by
    induction scopes with
    | nil => rfl
    | cons entry scopes ih =>
      rw [List.filterMap_cons, ih, complaint_strange]
      by_cases strange : IsStrange entry.1 <;> simp [strange]
  let strange := (config.scopes.map Prod.fst).filter fun name => decide (IsStrange name)
  have sorted := List.pairwise_mergeSort' (· ≤ ·) strange
  have distinct : (strange.mergeSort fun a b => decide (a ≤ b)).Nodup :=
    (List.mergeSort_perm _ _).nodup_iff.mpr (once.filter _)
  refine ⟨strange.mergeSort fun a b => decide (a ≤ b), ?_, ?_, fun name => ?_⟩
  · calc config.unknownScopes = (strange.map .unknownScope).mergeSort
          fun a b => decide (a.message ≤ b.message) :=
        congrArg (fun errors : List LimitError => errors.mergeSort
          fun a b => decide (a.message ≤ b.message)) (reported config.scopes)
      _ = (strange.mergeSort fun a b => decide (a ≤ b)).map .unknownScope := by
        refine (List.map_mergeSort fun a _ b _ => ?_).symm
        simp only [message_le_iff]
  · exact (sorted.and distinct).imp fun both => lt_of_le_of_ne both.1 both.2
  · rw [List.mem_mergeSort]
    simp [strange]

/-- A name that is reported is reported once. -/
private theorem reported_once {names : List String} (sorted : names.Pairwise (· < ·))
    (held : name ∈ names) : (names.map LimitError.unknownScope).count (.unknownScope name) = 1 := by
  have distinct : (names.map LimitError.unknownScope).Nodup :=
    (List.Pairwise.imp ne_of_lt sorted).map _ fun _ _ different same =>
      different (LimitError.unknownScope.inj same)
  exact List.count_eq_one_of_mem distinct (List.mem_map_of_mem held)

/-- Every name of a section is the code of a scope or is reported, once, in order, and wherever it
stands in the document. A scope's policy is told by the last section of its code and by nothing else. -/
theorem sections_partitioned (taken : Takes decoder tree config) :
    (∀ name, tree.NamesScope name →
      (∃ scope : Scope, scope.code = name) ∧ .unknownScope name ∉ config.unknownScopes ∨
        IsStrange name ∧ config.unknownScopes.count (.unknownScope name) = 1) ∧
    (∃ names : List String, config.unknownScopes = names.map .unknownScope ∧
      names.Pairwise (· < ·) ∧ ∀ name, name ∈ names ↔ tree.NamesScope name ∧ IsStrange name) ∧
    (∀ other shuffled, Takes decoder other shuffled →
      (∀ name, other.NamesScope name ↔ tree.NamesScope name) →
        shuffled.unknownScopes = config.unknownScopes) ∧
    ∀ scope, Follows (tree.section? scope.code) (Policy.builtIn scope) (config.policy scope) ∧
      ∀ other changed, Takes decoder other changed →
        other.section? scope.code = tree.section? scope.code →
          changed.policy scope = config.policy scope := by
  have given := sectioned taken
  obtain ⟨names, reported, sorted, members⟩ := unknown_scopes_listed given.once
  simp only [given.named] at members
  refine ⟨fun name named => ?_, ⟨names, reported, sorted, members⟩, ?_, fun scope => ⟨?_, ?_⟩⟩
  · by_cases strange : IsStrange name
    · exact .inr ⟨strange, reported ▸ reported_once sorted ((members name).mpr ⟨named, strange⟩)⟩
    · refine .inl ⟨by simpa [IsStrange] using strange, fun listed => ?_⟩
      rw [reported, List.mem_map] at listed
      obtain ⟨_, held, same⟩ := listed
      cases same
      exact strange ((members name).mp held).2
  · intro other shuffled also same
    have givenOther := sectioned also
    obtain ⟨others, reportedOther, sortedOther, membersOther⟩ := unknown_scopes_listed givenOther.once
    simp only [givenOther.named, same] at membersOther
    have equal : others = names := sortedOther.eq_of_mem_iff sorted fun name => by
      rw [members, membersOther]
    rw [reported, reportedOther, equal]
  · exact policy_follows given scope
  · intro other changed also same
    exact (same ▸ policy_follows (sectioned also) scope).unique (policy_follows given scope)

/-- A section with two sections of one scope between those of two scopes that there are not. -/
def crowded : Tree × Bytes := tight [
  ("zz", tight []), ("ip", tight [("requests", .number (digits 7), digits 7)]), ("aa", tight []),
  ("ip", tight [("enabled", .bool false, [0x66, 0x61, 0x6C, 0x73, 0x65])])]

def crowdedConfig : LimitsConfig :=
  ⟨.redis, 500, [("zz", .blank), ("ip", ⟨some false, none, none⟩), ("aa", .blank)]⟩

private theorem crowded_taken : Takes decoder crowded.1 crowdedConfig := by
  have seven : (Tree.number (digits 7)).Writes (digits 7) := .number (.inl (Cursor.digits_numeral 7).1)
  have empty : (tight []).1.Writes (tight []).2 := tight_writes (by simp) (by simp)
  have writes : crowded.1.Writes crowded.2 := by
    refine tight_writes (by decide +kernel) ?_
    simp only [List.forall_mem_cons]
    exact ⟨empty, tight_writes (by decide +kernel) (by simpa using seven), empty,
      tight_writes (by decide +kernel) (by simpa using .no), by simp⟩
  have read : (decoder 4 (Cursor.start crowded.2)).toOption.map Prod.fst = some crowdedConfig := by
    decide +kernel
  exact Takes.of_text writes read

theorem sections_partitioned_crowded :
    Takes decoder crowded.1 crowdedConfig ∧
    (∃ names : List String, crowdedConfig.unknownScopes = names.map .unknownScope ∧
      names.Pairwise (· < ·) ∧ ∀ name, name ∈ names ↔ crowded.1.NamesScope name ∧ IsStrange name) ∧
    Follows (crowded.1.section? "ip") (Policy.builtIn .client) (crowdedConfig.policy .client) :=
  ⟨crowded_taken, (sections_partitioned crowded_taken).2.1,
    ((sections_partitioned crowded_taken).2.2.2 .client).1⟩

end LimitsConfig
end Gatehouse
