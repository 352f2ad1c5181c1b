import Gatehouse.Cors.Rules
import Gatehouse.Proofs.Steps
import Gatehouse.Proofs.Text.Utf8

/-! From which configurations rules for foreign pages can be made and put in front of a handler. Entries
that cannot be used make no difference. What is refused is the wildcard where it may not stand: among
listed origins, which it reaches behind blanks, and with credentials as all that is left of another
list. -/
namespace Gatehouse.Cors

/-! ## Entries -/

/-- An origin that can be listed, once the blanks around it are gone. -/
def usableOrigin (entry : String) : Bool := isFieldValue (Utf8.encode (Blank.trim entry))

/-- The name of a method, once the blanks around it are gone. -/
def usableMethod (entry : String) : Bool := HttpToken.isToken (Blank.trim entry)

/-- The name of a header, once the blanks around it are gone. -/
def usableHeader (entry : String) : Bool :=
  usableMethod entry && decide ((Blank.trim entry).length ≤ longestName)

/-- The configuration without the entries that cannot be used. -/
def withoutUnusable (config : CorsConfig) : CorsConfig :=
  { config with
    origins := config.origins.filter usableOrigin
    methods := config.methods.filter usableMethod
    headers := config.headers.filter usableHeader
    exposed := config.exposed.filter usableHeader }

/-- A header name in lower case. -/
def lower (name : String) : String := String.ofList (name.toList.map Char.toLower)

theorem tokens_usable (entries : List String) :
    tokens entries = (entries.filter usableMethod).map Blank.trim := by
  unfold tokens
  rw [List.filter_map]
  rfl

theorem header_names_usable (entries : List String) :
    headerNames entries = (entries.filter usableHeader).map (lower ∘ Blank.trim) := by
  have both (entry : String) :
      (decide ((Blank.trim entry).length ≤ longestName) && usableMethod entry) =
        usableHeader entry := Bool.and_comm ..
  unfold headerNames
  rw [tokens_usable, List.filter_map, List.filter_filter, List.map_map]
  simp only [Function.comp_apply, both]
  rfl

theorem listed_usable (config : CorsConfig) :
    listedOrigins config =
      (config.origins.filter usableOrigin).map fun origin => Utf8.encode (Blank.trim origin) := by
  unfold listedOrigins
  rw [List.filter_map]
  rfl

private theorem wildcard_value : isFieldValue (Utf8.encode "*") = true := by
  have bytes : Utf8.encode "*" = [0x2A] := Utf8.encode_of_list ['*']
  rw [bytes]
  decide

private theorem wildcard_usable : usableOrigin "*" = true := by
  have trimmed : Blank.trim "*" = "*" := by decide
  unfold usableOrigin
  rw [trimmed, wildcard_value]

theorem allows_any_iff {config : CorsConfig} : allowsAny config = true ↔ "*" ∈ config.origins :=
  List.contains_iff_mem

/-- Entries that cannot be used make no difference. -/
theorem rules_without_unusable (config : CorsConfig) :
    rules (withoutUnusable config) = rules config := by
  have any : allowsAny (withoutUnusable config) = allowsAny config := by
    refine Bool.eq_iff_iff.mpr ?_
    rw [allows_any_iff, allows_any_iff]
    exact List.mem_filter.trans (and_iff_left wildcard_usable)
  have listed : listedOrigins (withoutUnusable config) = listedOrigins config := by
    rw [listed_usable, listed_usable]
    simp only [withoutUnusable, List.filter_filter, Bool.and_self]
  have methods : tokens (withoutUnusable config).methods = tokens config.methods := by
    rw [tokens_usable, tokens_usable]
    simp only [withoutUnusable, List.filter_filter, Bool.and_self]
  have names (entries : List String) :
      headerNames (entries.filter usableHeader) = headerNames entries := by
    rw [header_names_usable, header_names_usable]
    simp only [List.filter_filter, Bool.and_self]
  unfold rules
  rw [any, listed, methods]
  simp only [withoutUnusable, names]

/-! ## Wildcards -/

/-- No origin is the wildcard as it stands, but one is with the blanks around it. -/
def HiddenWildcard (config : CorsConfig) : Prop :=
  "*" ∉ config.origins ∧ ∃ origin ∈ config.origins, Blank.trim origin = "*"

/-- All that can be used of some entries is one wildcard. -/
def OnlyWildcard (usable : String → Bool) (entries : List String) : Prop :=
  ∃ before entry behind, entries = before ++ entry :: behind ∧ Blank.trim entry = "*" ∧
    ∀ other ∈ before ++ behind, usable other = false

theorem listed_wildcard_iff {config : CorsConfig} :
    Utf8.encode "*" ∈ listedOrigins config ↔
      ∃ origin ∈ config.origins, Blank.trim origin = "*" := by
  unfold listedOrigins
  rw [List.mem_filter, List.mem_map]
  constructor
  · rintro ⟨⟨origin, member, same⟩, _⟩
    exact ⟨origin, member, Utf8.encode_injective same⟩
  · rintro ⟨origin, member, same⟩
    exact ⟨⟨origin, member, congrArg Utf8.encode same⟩, wildcard_value⟩

/-- A list of texts without commas is the wildcard exactly if this is its only entry. -/
theorem joined_wildcard_iff {texts : List String} (noComma : ∀ text ∈ texts, ',' ∉ text.toList) :
    joined texts = some "*" ↔ texts = ["*"] := by
  cases texts with
  | nil => simp [joined]
  | cons first rest =>
    cases rest with
    | nil => simp [joined]
    | cons second others =>
      refine iff_of_false (fun same => ?_) (fun same => by cases same)
      have shape : ",".intercalate (first :: second :: others) = "*" := Option.some.inj same
      rw [String.intercalate_cons_cons] at shape
      have comma : ',' ∈ ("*" : String).toList := by
        rw [← shape]
        simp
      exact absurd comma (by decide)

/-- Below the letters there is no case. -/
private theorem lower_eq_iff {c d : Char} (below : d.val < 'A'.val) : c.toLower = d ↔ c = d := by
  unfold Char.toLower
  split
  next upper =>
    have beyond : ¬ c.val + ('a'.val - 'A'.val) < 'A'.val := by
      have low := UInt32.le_iff_toNat_le.mp upper.1
      have high := UInt32.le_iff_toNat_le.mp upper.2
      rw [UInt32.lt_iff_toNat_lt]
      simp at *
      omega
    refine iff_of_false (fun same => beyond ?_) (fun same => ?_)
    · rw [← same] at below
      exact below
    · rw [← same] at below
      exact absurd upper.1 (by simpa using below)
  next => rfl

private theorem lower_wildcard_iff {name : String} : lower name = "*" ↔ name = "*" := by
  unfold lower
  rw [← String.toList_inj, ← String.toList_inj, String.toList_ofList]
  have wildcard : ("*" : String).toList = ['*'] := rfl
  rw [wildcard, List.map_eq_singleton_iff]
  constructor
  · rintro ⟨c, chars, same⟩
    rw [chars, (lower_eq_iff (by decide)).mp same]
  · intro chars
    exact ⟨'*', chars, by decide⟩

private theorem token_no_comma {entry : String} (usable : usableMethod entry = true) :
    ',' ∉ (Blank.trim entry).toList := by
  intro member
  have all := List.all_eq_true.mp (Bool.and_eq_true_iff.mp usable).2
  exact absurd (all ',' member) (by decide)

private theorem lower_no_comma {name : String} (noComma : ',' ∉ name.toList) :
    ',' ∉ (lower name).toList := by
  unfold lower
  rw [String.toList_ofList, List.mem_map]
  rintro ⟨c, member, same⟩
  rw [(lower_eq_iff (by decide)).mp same] at member
  exact noComma member

/-- One entry is left of a list, and it is the wildcard. -/
private theorem only_wildcard_iff {usable : String → Bool} {shown : String → String}
    {entries : List String} (wildcard : ∀ entry, shown entry = "*" ↔ Blank.trim entry = "*")
    (usable_wildcard : ∀ entry, Blank.trim entry = "*" → usable entry = true) :
    (entries.filter usable).map shown = ["*"] ↔ OnlyWildcard usable entries := by
  rw [List.map_eq_singleton_iff]
  constructor
  · rintro ⟨entry, left, same⟩
    obtain ⟨before, behind, rfl, none_before, _, none_behind⟩ := List.filter_eq_cons_iff.mp left
    refine ⟨before, entry, behind, rfl, (wildcard entry).mp same, fun other member => ?_⟩
    rcases List.mem_append.mp member with here | there
    · exact Bool.eq_false_iff.mpr (none_before other here)
    · exact Bool.eq_false_iff.mpr (List.filter_eq_nil_iff.mp none_behind other there)
  · rintro ⟨before, entry, behind, rfl, same, others⟩
    refine ⟨entry, List.filter_eq_cons_iff.mpr ⟨before, behind, rfl, fun other member => ?_,
      usable_wildcard entry same, List.filter_eq_nil_iff.mpr fun other member => ?_⟩,
      (wildcard entry).mpr same⟩
    · exact Bool.eq_false_iff.mp (others other (List.mem_append_left behind member))
    · exact Bool.eq_false_iff.mp (others other (List.mem_append_right before member))

theorem methods_wildcard_iff {entries : List String} :
    joined (tokens entries) = some "*" ↔ OnlyWildcard usableMethod entries := by
  rw [tokens_usable, joined_wildcard_iff]
  · refine only_wildcard_iff (fun entry => Iff.rfl) fun entry same => ?_
    unfold usableMethod
    rw [same]
    decide
  · intro text member
    obtain ⟨entry, left, rfl⟩ := List.mem_map.mp member
    exact token_no_comma (List.mem_filter.mp left).2

theorem headers_wildcard_iff {entries : List String} :
    joined (headerNames entries) = some "*" ↔ OnlyWildcard usableHeader entries := by
  rw [header_names_usable, joined_wildcard_iff]
  · refine only_wildcard_iff (fun entry => lower_wildcard_iff) fun entry same => ?_
    unfold usableHeader usableMethod
    rw [same]
    decide
  · intro text member
    obtain ⟨entry, left, rfl⟩ := List.mem_map.mp member
    exact lower_no_comma (token_no_comma (Bool.and_eq_true_iff.mp (List.mem_filter.mp left).2).1)

/-! ## Making rules -/

/-- The rules that follow from a configuration. -/
structure Follow (config : CorsConfig) (rules : Rules) : Prop where
  origins : rules.origins =
    if "*" ∈ config.origins then .any else .listed (listedOrigins config)
  methods : rules.methods = joined (tokens config.methods)
  headers : rules.headers = joined (headerNames config.headers)
  exposed : rules.exposed = joined (headerNames config.exposed)
  credentials : rules.credentials = true ↔ config.credentials = true ∧ "*" ∉ config.origins

private theorem refused_iff {config : CorsConfig} :
    (!allowsAny config && (listedOrigins config).contains (Utf8.encode "*")) = true ↔
      HiddenWildcard config := by
  rw [Bool.and_eq_true_iff, Bool.not_eq_true', ← Bool.not_eq_true, allows_any_iff,
    List.contains_iff_mem, listed_wildcard_iff]
  rfl

theorem rules_refused (config : CorsConfig) (hidden : HiddenWildcard config) :
    rules config = .error .wildcardInList := by
  unfold rules
  exact if_pos (refused_iff.mpr hidden)

theorem rules_made (config : CorsConfig) (plain : ¬ HiddenWildcard config) :
    ∃ made, rules config = .ok made ∧ Follow config made := by
  unfold rules
  refine ⟨_, if_neg (mt refused_iff.mp plain), ?_, rfl, rfl, rfl, ?_⟩
  · simp only [allows_any_iff]
  · simp [← allows_any_iff]

theorem rules_follow {config : CorsConfig} {made : Rules} (succeeded : rules config = .ok made) :
    ¬ HiddenWildcard config ∧ Follow config made := by
  by_cases hidden : HiddenWildcard config
  · rw [rules_refused config hidden] at succeeded
    cases succeeded
  · obtain ⟨other, again, follow⟩ := rules_made config hidden
    rw [succeeded] at again
    cases again
    exact ⟨hidden, follow⟩

/-- The check looks for wildcards beside credentials. -/
theorem check_ok_iff {rules : Rules} :
    rules.check = .ok () ↔ (rules.credentials = true →
      rules.headers ≠ some "*" ∧ rules.methods ≠ some "*" ∧ rules.origins ≠ .any ∧
        rules.exposed ≠ some "*") := by
  unfold Rules.check
  cases rules.credentials with
  | false => simp
  | true =>
    by_cases headers : rules.headers = some "*"
    · simp [headers]
    by_cases methods : rules.methods = some "*"
    · simp [headers, methods]
    by_cases origins : rules.origins = .any
    · simp [headers, methods, origins]
    by_cases exposed : rules.exposed = some "*"
    · simp [headers, methods, origins, exposed]
    · simp [headers, methods, origins, exposed]

/-- Rules can be made from a configuration and put in front of a handler exactly if no wildcard is hidden
among its origins, and, where credentials are allowed and some origins only, all that can be used of the
methods, of the headers or of the exposed headers is never the wildcard alone. Other entries may be
whatever they are: those that cannot be used make no difference. -/
theorem installed_iff (config : CorsConfig) :
    rules (withoutUnusable config) = rules config ∧
    ((∃ made, rules config = .ok made ∧ made.check = .ok ()) ↔
      ¬ HiddenWildcard config ∧ (config.credentials = true → "*" ∉ config.origins →
        ¬ OnlyWildcard usableMethod config.methods ∧ ¬ OnlyWildcard usableHeader config.headers ∧
          ¬ OnlyWildcard usableHeader config.exposed)) := by
  refine ⟨rules_without_unusable config, ?_⟩
  have checked {made : Rules} (follow : Follow config made) : made.check = .ok () ↔
      (config.credentials = true → "*" ∉ config.origins →
        ¬ OnlyWildcard usableMethod config.methods ∧ ¬ OnlyWildcard usableHeader config.headers ∧
          ¬ OnlyWildcard usableHeader config.exposed) := by
    rw [check_ok_iff, follow.credentials, follow.methods, follow.headers, follow.exposed,
      follow.origins, and_imp]
    simp only [ne_eq, methods_wildcard_iff, headers_wildcard_iff]
    refine forall₂_congr fun _ listed => ?_
    rw [if_neg listed]
    constructor
    · rintro ⟨headers, methods, _, exposed⟩
      exact ⟨methods, headers, exposed⟩
    · rintro ⟨methods, headers, exposed⟩
      exact ⟨headers, methods, Origins.noConfusion, exposed⟩
  constructor
  · rintro ⟨made, succeeded, passed⟩
    obtain ⟨plain, follow⟩ := rules_follow succeeded
    exact ⟨plain, (checked follow).mp passed⟩
  · rintro ⟨plain, sparing⟩
    obtain ⟨made, succeeded, follow⟩ := rules_made config plain
    exact ⟨made, succeeded, (checked follow).mpr sparing⟩

/-- Two documents that can be read and are refused later: the first has a wildcard with a blank in front
of it as its only origin, the second has credentials for a listed origin and a wildcard as its only
header. -/
theorem read_yet_refused :
    (∃ config : CorsConfig,
      Json.Decoder.run (Json.Decoder.record CorsConfig.shape)
        (Utf8.encode "\x7b\"allowed_origins\":[\" *\"]\x7d") = .ok config ∧
      rules config = .error .wildcardInList) ∧
    ∃ (config : CorsConfig) (made : Rules),
      Json.Decoder.run (Json.Decoder.record CorsConfig.shape)
        (Utf8.encode ("\x7b\"allowed_origins\":[\"https://app.example\"]," ++
          "\"allow_credentials\":true,\"allowed_headers\":[\"*\"]\x7d")) = .ok config ∧
      rules config = .ok made ∧
      made.check = .error (.credentialsWithAny "Access-Control-Allow-Headers") := by
  constructor
  · refine ⟨{ CorsConfig.standard with origins := [" *"] }, to_option_iff.mp ?_, ?_⟩
    · decide +kernel
    · exact rules_refused _ ⟨by decide, " *", List.mem_cons_self, by decide⟩
  · refine ⟨{ CorsConfig.standard with
        origins := ["https://app.example"], headers := ["*"], credentials := true },
      ⟨.listed [Utf8.encode "https://app.example"],
        some "GET,POST,PUT,PATCH,DELETE,OPTIONS", some "*", some "link", true, 300⟩,
      to_option_iff.mp ?_, to_option_iff.mp ?_, rfl⟩
    · decide +kernel
    · decide +kernel

end Gatehouse.Cors
