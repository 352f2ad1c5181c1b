import Gatehouse.Http.Message
import Mathlib.Data.List.Induction

/-! Header fields by their names. What is set for one name does not touch the values of another, and a
default counts only where a name has no value yet. Of defaults that are added one after another the
first one for a name counts, and those for names that are there already change nothing. What holds of all
names that are set holds of all names that are there. -/
namespace Gatehouse.Headers

variable {headers : Headers} {name other : String}

/-! ## The first value -/

/-- The value that counts for a name is the first of all that it has. -/
theorem get?_eq_head? (headers : Headers) (name : String) :
    headers.get? name = (headers.getAll name).head? := by
  obtain ⟨fields⟩ := headers
  unfold get? getAll
  induction fields with
  | nil => rfl
  | cons field rest ih =>
    rw [List.lookup_cons]
    by_cases same : name = field.1
    · simp [same]
    · have passed : (name == field.1) = false := beq_eq_false_iff_ne.mpr same
      rw [passed, List.filter_cons_of_neg (by simpa using Ne.symm same)]
      exact ih

theorem get?_some_iff {value : Bytes} :
    headers.get? name = some value ↔ ∃ more, headers.getAll name = value :: more := by
  rw [get?_eq_head?, List.head?_eq_some_iff]

theorem get?_none_iff : headers.get? name = none ↔ headers.getAll name = [] := by
  rw [get?_eq_head?, List.head?_eq_none_iff]

/-! ## Setting -/

theorem contains_iff_getAll : headers.contains name = true ↔ headers.getAll name ≠ [] := by
  unfold contains getAll
  simp

theorem absent_iff_getAll : headers.contains name = false ↔ headers.getAll name = [] := by
  unfold contains getAll
  simp

@[simp] theorem getAll_append (headers : Headers) (name other : String) (value : Bytes) :
    (headers.append other value).getAll name =
      headers.getAll name ++ if other = name then [value] else [] := by
  unfold getAll append
  rw [List.filter_append, List.map_append]
  by_cases same : other = name
  · simp [same]
  · simp [same]

theorem getAll_erase_self (headers : Headers) (name : String) :
    (headers.erase name).getAll name = [] := by
  unfold getAll erase
  simp

theorem getAll_erase_other (different : other ≠ name) :
    (headers.erase other).getAll name = headers.getAll name := by
  unfold getAll erase
  rw [List.filter_filter]
  congr 1
  refine List.filter_congr fun entry _ => ?_
  by_cases same : entry.1 = name
  · simp [same, different.symm]
  · simp [same]

theorem getAll_insert_other (value : Bytes) (different : other ≠ name) :
    (headers.insert other value).getAll name = headers.getAll name := by
  unfold insert
  simp [different, getAll_erase_other different]

theorem getAll_insert_self (headers : Headers) (name : String) (value : Bytes) :
    (headers.insert name value).getAll name = [value] := by
  unfold insert
  simp [getAll_erase_self]

/-- Makes values the only ones of their names, one after another. -/
def insertAll (headers : Headers) (fields : List (String × Bytes)) : Headers :=
  fields.foldl (fun headers (name, value) => headers.insert name value) headers

/-- Of the values that are set for a name the last one stays. -/
theorem getAll_insertAll (headers : Headers) (fields : List (String × Bytes)) (name : String) :
    (headers.insertAll fields).getAll name =
      match ((⟨fields⟩ : Headers).getAll name).getLast? with
      | some value => [value]
      | none => headers.getAll name := by
  induction fields using List.reverseRecOn with
  | nil => rfl
  | append_singleton fields field ih =>
    have step : headers.insertAll (fields ++ [field]) =
        (headers.insertAll fields).insert field.1 field.2 := List.foldl_append ..
    have more : (⟨fields ++ [field]⟩ : Headers) = Headers.append ⟨fields⟩ field.1 field.2 := rfl
    rw [step, more, getAll_append]
    by_cases same : field.1 = name
    · rw [if_pos same, List.getLast?_concat, ← same]
      exact getAll_insert_self _ _ _
    · rw [if_neg same, List.append_nil, getAll_insert_other _ same]
      exact ih

theorem getAll_set_self (headers : Headers) (name value : String) :
    (headers.set name value).getAll name = [Utf8.encode value] :=
  getAll_insert_self headers name (Utf8.encode value)

theorem getAll_set_other (value : String) (different : other ≠ name) :
    (headers.set other value).getAll name = headers.getAll name :=
  getAll_insert_other _ different

/-- Sets values one after another. -/
def setAll (headers : Headers) (fields : List (String × String)) : Headers :=
  fields.foldl (fun headers (name, value) => headers.set name value) headers

theorem getAll_setAll_other {fields : List (String × String)} (headers : Headers)
    (foreign : name ∉ fields.map Prod.fst) :
    (headers.setAll fields).getAll name = headers.getAll name := by
  induction fields generalizing headers with
  | nil => rfl
  | cons field rest ih =>
    rw [List.map_cons, List.mem_cons, not_or] at foreign
    exact (ih (headers.set field.1 field.2) foreign.2).trans
      (getAll_set_other _ (Ne.symm foreign.1))

/-- Of values that are set for different names each one stays. -/
theorem getAll_setAll {fields : List (String × String)} (headers : Headers)
    (distinct : (fields.map Prod.fst).Nodup) :
    ∀ field ∈ fields, (headers.setAll fields).getAll field.1 = [Utf8.encode field.2] := by
  induction fields generalizing headers with
  | nil =>
    intro field member
    cases member
  | cons first rest ih =>
    obtain ⟨fresh, others⟩ := List.nodup_cons.mp distinct
    refine List.forall_mem_cons.mpr ⟨?_, ih (headers.set first.1 first.2) others⟩
    exact (getAll_setAll_other (headers.set first.1 first.2) fresh).trans
      (getAll_set_self headers first.1 first.2)

/-! ## Defaults -/

/-- A default for a name that is there changes nothing. -/
theorem default_present {value : String} (present : headers.contains name) :
    headers.default name value = headers := by
  unfold default insertIfAbsent
  rw [if_pos present]

theorem getAll_insertIfAbsent_other (value : Bytes) (different : other ≠ name) :
    (headers.insertIfAbsent other value).getAll name = headers.getAll name := by
  unfold insertIfAbsent
  split
  · rfl
  · simp [different]

theorem get?_insertIfAbsent_other (value : Bytes) (different : other ≠ name) :
    (headers.insertIfAbsent other value).get? name = headers.get? name := by
  rw [get?_eq_head?, get?_eq_head?, getAll_insertIfAbsent_other value different]

/-- A name without values gets the one that is set where there is none. -/
theorem getAll_insertIfAbsent_self (value : Bytes) (absent : headers.getAll name = []) :
    (headers.insertIfAbsent name value).getAll name = [value] := by
  unfold insertIfAbsent
  simp [absent_iff_getAll.mpr absent, absent]

/-- Adds defaults one after another. -/
def addDefaults (headers : Headers) (fields : List (String × String)) : Headers :=
  fields.foldl (fun headers (name, value) => headers.default name value) headers

/-- Behind defaults a name has the values that it had, or else the first default for it. -/
theorem getAll_addDefaults (fields : List (String × String)) (headers : Headers) (name : String) :
    (headers.addDefaults fields).getAll name =
      if headers.contains name then headers.getAll name
      else ((fields.lookup name).map Utf8.encode).toList := by
  induction fields generalizing headers with
  | nil =>
    cases present : headers.contains name with
    | true => rfl
    | false => exact absent_iff_getAll.mp present
  | cons field rest ih =>
    have step : headers.addDefaults (field :: rest) =
        (headers.default field.1 field.2).addDefaults rest := rfl
    rw [step, ih]
    cases present : headers.contains name with
    | true =>
      have kept : (headers.default field.1 field.2).getAll name = headers.getAll name := by
        by_cases same : field.1 = name
        · rw [same, default_present present]
        · exact getAll_insertIfAbsent_other _ same
      have still : (headers.default field.1 field.2).contains name = true := by
        rw [contains_iff_getAll, kept]
        exact contains_iff_getAll.mp present
      rw [if_pos still, if_pos rfl, kept]
    | false =>
      have none_yet := absent_iff_getAll.mp present
      by_cases same : field.1 = name
      · have own : (headers.default field.1 field.2).getAll name = [Utf8.encode field.2] := by
          rw [same]
          exact getAll_insertIfAbsent_self _ none_yet
        have there : (headers.default field.1 field.2).contains name = true := by
          rw [contains_iff_getAll, own]
          exact List.cons_ne_nil _ _
        rw [if_pos there, own, List.lookup_cons, same, beq_self_eq_true]
        rfl
      · have still : (headers.default field.1 field.2).contains name = false :=
          absent_iff_getAll.mpr ((getAll_insertIfAbsent_other _ same).trans none_yet)
        rw [still, List.lookup_cons, beq_false_of_ne (Ne.symm same)]
        rfl

/-- Of defaults with different names each one is set where there is none. -/
theorem getAll_addDefaults_own {fields : List (String × String)}
    (distinct : (fields.map Prod.fst).Nodup) :
    ∀ field ∈ fields, headers.contains field.1 = false →
      (headers.addDefaults fields).getAll field.1 = [Utf8.encode field.2] := by
  intro field member absent
  have found : fields.lookup field.1 = some field.2 := by
    obtain ⟨before, behind, split⟩ := List.append_of_mem member
    refine List.lookup_eq_some_iff.mpr ⟨before, behind, split, fun other inside => ?_⟩
    rw [split, List.map_append, List.nodup_append] at distinct
    have different := distinct.2.2 other.1 (List.mem_map_of_mem inside) field.1 List.mem_cons_self
    exact bne_iff_ne.mpr (Ne.symm different)
  rw [getAll_addDefaults, absent, found]
  rfl

/-- Defaults for names that are there change nothing. -/
theorem addDefaults_present {fields : List (String × String)}
    (present : ∀ field ∈ fields, headers.contains field.1 = true) :
    headers.addDefaults fields = headers := by
  induction fields with
  | nil => rfl
  | cons field rest ih =>
    obtain ⟨own, others⟩ := List.forall_mem_cons.mp present
    have step : headers.addDefaults (field :: rest) =
        (headers.default field.1 field.2).addDefaults rest := rfl
    rw [step, default_present own]
    exact ih others

/-! ## Names of a kind -/

/-- Every field has a name of a kind. -/
def Named (kind : String → Prop) (headers : Headers) : Prop :=
  ∀ entry ∈ headers.entries, kind entry.1

variable {kind : String → Prop}

theorem Named.mono {wider : String → Prop} (named : headers.Named kind)
    (includes : ∀ name, kind name → wider name) : headers.Named wider :=
  fun entry member => includes entry.1 (named entry member)

/-- A name that is not of the kind has no values. -/
theorem Named.getAll (named : headers.Named kind) (foreign : ¬ kind name) :
    headers.getAll name = [] := by
  unfold Headers.getAll
  refine List.map_eq_nil_iff.mpr (List.filter_eq_nil_iff.mpr fun entry member same => ?_)
  rw [← beq_iff_eq.mp same] at foreign
  exact foreign (named entry member)

theorem Named.empty : Headers.empty.Named kind := by
  intro entry member
  cases member

theorem Named.erase (named : headers.Named kind) (name : String) :
    (headers.erase name).Named kind := by
  intro entry member
  exact named entry (List.mem_filter.mp member).1

theorem Named.append (named : headers.Named kind) (value : Bytes) (own : kind name) :
    (headers.append name value).Named kind := by
  intro entry member
  rcases List.mem_append.mp member with old | new
  · exact named entry old
  · rw [List.mem_singleton.mp new]
    exact own

theorem Named.insert (named : headers.Named kind) (value : Bytes) (own : kind name) :
    (headers.insert name value).Named kind :=
  (named.erase name).append value own

theorem Named.insertIfAbsent (named : headers.Named kind) (value : Bytes) (own : kind name) :
    (headers.insertIfAbsent name value).Named kind := by
  unfold Headers.insertIfAbsent
  split
  · exact named
  · exact named.append value own

/-- Fields that are put in one after another. -/
theorem Named.foldl {α : Type} {entries : List (String × α)}
    {put : Headers → String × α → Headers}
    (named : headers.Named kind) (own : ∀ entry ∈ entries, kind entry.1)
    (puts : ∀ (headers : Headers) entry, headers.Named kind → kind entry.1 →
      (put headers entry).Named kind) : (entries.foldl put headers).Named kind := by
  induction entries generalizing headers with
  | nil => exact named
  | cons entry rest ih =>
    obtain ⟨first, others⟩ := List.forall_mem_cons.mp own
    exact ih (puts headers entry named first) others

end Gatehouse.Headers
