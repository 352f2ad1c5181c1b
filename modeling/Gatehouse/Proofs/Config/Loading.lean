import Gatehouse.Proofs.Config.Orders
import Gatehouse.Proofs.Json.Additions
import Gatehouse.Proofs.Text.Utf8

/-!
Loading the configuration. A document gives every setting by itself; the order of its members does not
matter, nor does a member that no section has a use for; and a variable that is set and not empty
replaces one setting.
-/
namespace Gatehouse
open Json Json.Tree Json.Decoder RateLimit Utf8

/-! ## Members that no section has a use for -/

namespace AppConfig

/-- A name that a section, other than that of the limiters, has no use for. -/
def IsUnknown (path : List String) (key : String) : Prop :=
  path ∈ sectionPaths ∧ path ≠ ["server", "rate_limit"] ∧ ¬ IsPlace (path ++ [key])

section Sections

variable {α σ : Type} {decoder : Decoder α} {path : List String} {name : String}

/-- At the place of a setting nothing is unknown, and neither is anything at that of the limiters. -/
theorem ignores_setting (alone : ∀ listed ∈ sectionPaths, path <+: listed →
    listed = ["server", "rate_limit"]) : Ignores IsUnknown path decoder :=
  ignores_nowhere fun more _ unknown => unknown.2.1 (alone _ unknown.1 ⟨more, rfl⟩)

theorem ignores_section {fields : Shape σ} (sound : fields.IsSection)
    (named : ∀ name ∈ fields.fields.map (·.name), path ++ [name] ∈ sectionPaths ++ settings.map (·.path))
    (ignores : ∀ field ∈ fields.fields, Ignores IsUnknown (path ++ [field.name]) field.read) :
    Ignores IsUnknown path (record fields) := by
  refine record_ignores sound (fun key unknown => ?_) ignores
  rw [List.find?_eq_none]
  intro field held same
  have known := named field.name (List.mem_map_of_mem held)
  rw [beq_iff_eq.mp same, List.mem_append] at known
  exact unknown.2.2 (known.imp_left .inl)

/-- A section of settings alone. -/
theorem ignores_settings {fields : Shape σ} (sound : fields.IsSection)
    (named : ∀ name ∈ fields.fields.map (·.name), path ++ [name] ∈ sectionPaths ++ settings.map (·.path) ∧
      ∀ listed ∈ sectionPaths, ¬ path ++ [name] <+: listed) :
    Ignores IsUnknown path (record fields) :=
  ignores_section sound (fun name held => (named name held).1) fun field held =>
    ignores_setting fun listed member above =>
      absurd above ((named field.name (List.mem_map_of_mem held)).2 listed member)

end Sections

theorem server_ignores : Ignores IsUnknown ["server"] (record ServerConfig.shape) := by
  refine ignores_section server_sound (by decide) ?_
  simp only [ServerConfig.shape, List.forall_mem_cons]
  exact ⟨ignores_setting (by decide), ignores_setting (by decide), ignores_setting (by decide),
    ignores_setting (by decide), ignores_setting (by decide),
    field_ignores _ (ignores_settings compression_sound (by decide)) _,
    field_ignores _ (ignores_settings cors_sound (by decide)) _,
    ignores_setting (by decide),
    field_ignores _ (ignores_settings metrics_sound (by decide)) _, by simp⟩

/-- What is made of a document does not depend on members that no section has a use for. -/
theorem document_ignores : Ignores IsUnknown [] (record shape) := by
  refine ignores_section shape_sound (by decide) ?_
  simp only [shape, List.forall_mem_cons]
  exact ⟨field_ignores _ server_ignores _,
    field_ignores _ (ignores_settings tokens_sound (by decide)) _,
    field_ignores _ (ignores_settings redis_sound (by decide)) _,
    field_ignores _ (ignores_settings database_sound (by decide)) _,
    field_ignores _ (ignores_settings logger_sound (by decide)) _, by simp⟩

/-! ## Variables -/

/-- A variable that is set to a text replaces a setting, unless the text is empty. -/
def Replaces {α : Type} (found : Option String) (put : String → α) (given value : α) : Prop :=
  match found with
  | none => value = given
  | some replacement => value = if replacement = "" then given else put replacement

/-- Three variables replace one setting each, and everything else is kept. -/
structure IsOverridden (env : Environment) (given config : AppConfig) : Prop where
  redis : Replaces (env.lookup "REDIS_URL") id given.redisUrl config.redisUrl
  database : Replaces (env.lookup "DATABASE_URL") some given.database.url config.database.url
  secret : Replaces (env.lookup "JWT_SECRET") id given.tokens.secret config.tokens.secret
  others : config = { given with
    redisUrl := config.redisUrl
    database := { given.database with url := config.database.url }
    tokens := { given.tokens with secret := config.tokens.secret } }

theorem replaces_with (env : Environment) (name given : String) :
    Replaces (env.lookup name) id given ((env.nonEmpty? name).getD given) := by
  rw [Environment.nonEmpty?]
  cases env.lookup name with
  | none => rfl
  | some text => by_cases empty : text = "" <;> simp [Replaces, Option.filter_some, empty]

theorem replaces_or (env : Environment) (name : String) (given : Option String) :
    Replaces (env.lookup name) some given ((env.nonEmpty? name).or given) := by
  rw [Environment.nonEmpty?]
  cases env.lookup name with
  | none => rfl
  | some text => by_cases empty : text = "" <;> simp [Replaces, Option.filter_some, empty]

theorem overridden (env : Environment) (given : AppConfig) :
    IsOverridden env given (given.override env) where
  redis := replaces_with env _ _
  database := replaces_or env _ _
  secret := replaces_with env _ _
  others := rfl

end AppConfig

/-! ## Documents -/

namespace ConfigSource
open AppConfig

variable {path text : String} {env : Environment} {config : AppConfig} {tree : Tree}

/-- A file is loaded if its document is accepted. -/
theorem load_iff (writes : tree.WritesDocument (encode text)) :
    load path (.contents (encode text)) env = .ok config ↔
      ∃ given, Makes (record shape) depthLimit tree (some given) ∧ config = given.override env := by
  have decoded : read path (.contents (encode text)) =
      (ofDocument (encode text)).mapError (.parse path) := by
    rw [read, decode_encode]
    rfl
  rw [load, decoded, bind_ok_iff]
  refine exists_congr fun given => ?_
  rw [map_error_ok_iff, ofDocument, document_iff (record_definite shape_sound) writes]
  exact and_congr_right fun _ =>
    ⟨fun same => (Except.ok.inj same).symm, fun same => congrArg Except.ok same.symm⟩

/-- A document gives every setting by itself, whatever else it holds; in another order of members it
gives the same, and so it does with or without a member that no section has a use for. Three variables
replace one setting each. -/
theorem loading_overlays (writes : tree.WritesDocument (encode text)) (plain : tree.HasPlainSections)
    (loaded : load path (.contents (encode text)) env = .ok config) :
    (∃ given, load path (.contents (encode text)) [] = .ok given ∧ IsOverlay tree given ∧
      IsOverridden env given config ∧
      ∀ (other : Tree) changed another, other.WritesDocument (encode changed) → other.HasPlainSections →
        load path (.contents (encode changed)) [] = .ok another → ∀ setting ∈ settings,
          other.at? setting.path = tree.at? setting.path → setting.get another = setting.get given) ∧
    (∀ other shuffled, Reordered tree other → other.WritesDocument (encode shuffled) →
      ∃ scopes, scopes.Perm config.server.limits.scopes ∧
        load path (.contents (encode shuffled)) env = .ok (config.withScopes scopes)) ∧
    ∀ other changed, Adds IsUnknown [] tree other ∨ Adds IsUnknown [] other tree →
      other.WritesDocument (encode changed) →
        load path (.contents (encode changed)) env = .ok config := by
  have writable := writes.writable
  obtain ⟨given, made, rfl⟩ := (load_iff writes).mp loaded
  have overlay := config_overlays plain (made.takes writable)
  refine ⟨⟨given, (load_iff writes).mpr ⟨given, made, rfl⟩, overlay, overridden env given, ?_⟩, ?_, ?_⟩
  · intro other changed another also plainOther loadedOther setting listed same
    obtain ⟨_, madeOther, rfl⟩ := (load_iff also).mp loadedOther
    have overlayOther := config_overlays plainOther (madeOther.takes also.writable)
    exact (same ▸ overlayOther.settings setting listed).unique (overlay.settings setting listed)
  · intro other shuffled reordered also
    obtain ⟨scopes, same, madeOther⟩ :=
      reordered_document plain reordered writable also.writable made
    exact ⟨scopes, same, (load_iff also).mpr ⟨_, madeOther, rfl⟩⟩
  · intro other changed adds also
    refine (load_iff also).mpr ⟨given, ?_, rfl⟩
    rcases adds with adds | adds
    · obtain ⟨value, one, another⟩ := document_ignores adds writable also.writable depthLimit
      rwa [makes_unique writable made one]
    · obtain ⟨value, another, one⟩ := document_ignores adds also.writable writable depthLimit
      rwa [makes_unique writable made one]

/-- The limiters' section of a document, with a section of one scope. -/
def ipLimits : Tree × Bytes := tight [("ip", tight [("requests", .number (digits 9), digits 9)])]

def serverPart : Tree × Bytes := tight [("port", .number (digits 7), digits 7), ("rate_limit", ipLimits)]

def uselessPart : String × Tree × Bytes := ("zz", .null, [0x6E, 0x75, 0x6C, 0x6C])

/-- A document with a member that nothing has a use for. -/
def layered : Tree × Bytes := tight [uselessPart, ("server", serverPart)]

def shuffled : Tree × Bytes := tight [("server", serverPart), uselessPart]

def plainest : Tree × Bytes := tight [("server", serverPart)]

def serverText : String := objectText [("port", "7"),
  ("rate_limit", objectText [("ip", objectText [("requests", "9")])])]

def layeredConfig : AppConfig :=
  { AppConfig.standard with
    server := { ServerConfig.standard with
      port := 7
      limits := ⟨.redis, 500, [("ip", ⟨none, some 9, none⟩)]⟩ }
    redisUrl := "redis://cache" }

def layeredEnv : Environment := [("REDIS_URL", "redis://cache"), ("JWT_SECRET", "")]

/-- The names in these documents, none of which holds anything that has to be escaped. -/
def namesWritten : List String := ["requests", "ip", "port", "rate_limit", "server", "zz"]

private theorem names_plain : ∀ name ∈ namesWritten, ∀ b ∈ encode name, IsPlainInString b := by
  decide +kernel

private theorem listed_plain {members : List (String × Tree × Bytes)}
    (listed : ∀ member ∈ members, member.1 ∈ namesWritten) :
    ∀ member ∈ members, ∀ b ∈ encode member.1, IsPlainInString b :=
  fun member held => names_plain member.1 (listed member held)

private theorem documents_written :
    encode (objectText [("zz", "null"), ("server", serverText)]) = layered.2 ∧
    encode (objectText [("server", serverText), ("zz", "null")]) = shuffled.2 ∧
    encode (objectText [("server", serverText)]) = plainest.2 := by decide +kernel

private theorem server_part_writes : serverPart.1.Writes serverPart.2 := by
  have number (n : Nat) : (Tree.number (digits n)).Writes (digits n) :=
    .number (.inl (Cursor.digits_numeral n).1)
  have ip : (tight [("requests", .number (digits 9), digits 9)]).1.Writes _ :=
    tight_writes (listed_plain (by decide)) (by simpa using number 9)
  have limits : ipLimits.1.Writes _ := tight_writes (listed_plain (by decide)) (by simpa using ip)
  exact tight_writes (listed_plain (by decide)) (by simpa using ⟨number 7, limits⟩)

private theorem tight_document {members : List (String × Tree × Bytes)} {text : String}
    (listed : ∀ member ∈ members, member.1 ∈ namesWritten)
    (each : ∀ member ∈ members, member.2.1.Writes member.2.2) (same : encode text = (tight members).2) :
    (tight members).1.WritesDocument (encode text) :=
  same ▸ (tight_writes (listed_plain listed) each).document

private theorem layered_writes :
    layered.1.WritesDocument (encode (objectText [("zz", "null"), ("server", serverText)])) :=
  tight_document (by decide) (by simpa [uselessPart] using ⟨.null, server_part_writes⟩)
    documents_written.1

private theorem shuffled_writes :
    shuffled.1.WritesDocument (encode (objectText [("server", serverText), ("zz", "null")])) :=
  tight_document (by decide) (by simpa [uselessPart] using ⟨server_part_writes, .null⟩)
    documents_written.2.1

private theorem plainest_writes :
    plainest.1.WritesDocument (encode (objectText [("server", serverText)])) :=
  tight_document (by decide) (by simpa using server_part_writes) documents_written.2.2

private theorem layered_plain : layered.1.HasPlainSections := by
  rintro path (listed | ⟨name, -, rfl⟩) entry found
  · have each : ∀ path ∈ sectionPaths, ∀ entry ∈ layered.1.at? path, entry.HasDistinctNames := by
      decide +kernel
    exact each path listed entry found
  · have limits : layered.1.at? ["server", "rate_limit"] = some ipLimits.1 := by with_unfolding_all rfl
    have below := layered.1.at_append ["server", "rate_limit"] [name]
    rw [limits, Option.bind_some, Tree.at_one] at below
    obtain ⟨member, held, -, rfl⟩ := member_held (below.symm.trans found)
    obtain rfl := List.mem_singleton.mp held
    decide

private theorem layered_shuffled : Reordered layered.1 shuffled.1 :=
  .object [(_, .null, .null), (_, serverPart.1, serverPart.1)]
    (List.forall_mem_cons.mpr ⟨.same _, List.forall_mem_cons.mpr ⟨.same _, by simp⟩⟩) (.swap _ _ _)

private theorem zz_unknown : IsUnknown [] "zz" := by
  refine ⟨by decide, by decide, ?_⟩
  rintro ((listed | ⟨name, -, same⟩) | listed)
  · revert listed
    decide
  · simp at same
  · revert listed
    decide

private theorem layered_adds : Adds IsUnknown [] plainest.1 layered.1 := by
  have spelled : spelled? ((encode "zz").map .plain) = some "zz" := by decide +kernel
  have adds {back : List (List Piece × Tree)} : Adds IsUnknown [] (.object ([] ++ back))
      (.object ([] ++ ((encode "zz").map .plain, .null) :: back)) := .here .null spelled zz_unknown
  exact adds

private theorem layered_loaded :
    load "config.json" (.contents (encode (objectText [("zz", "null"), ("server", serverText)])))
      layeredEnv = .ok layeredConfig := by
  rw [← to_option_iff]
  decide +kernel

theorem loading_overlays_layered :
    layered.1.HasPlainSections ∧
    load "config.json" (.contents (encode (objectText [("zz", "null"), ("server", serverText)])))
      layeredEnv = .ok layeredConfig ∧
    (∃ given, load "config.json"
        (.contents (encode (objectText [("zz", "null"), ("server", serverText)]))) [] = .ok given ∧
      IsOverlay layered.1 given ∧ IsOverridden layeredEnv given layeredConfig) ∧
    (∃ scopes, scopes.Perm layeredConfig.server.limits.scopes ∧
      load "config.json" (.contents (encode (objectText [("server", serverText), ("zz", "null")])))
        layeredEnv = .ok (layeredConfig.withScopes scopes)) ∧
    load "config.json" (.contents (encode (objectText [("server", serverText)]))) layeredEnv =
      .ok layeredConfig := by
  obtain ⟨⟨given, loaded, overlays, overridden, -⟩, orders, ignores⟩ :=
    loading_overlays layered_writes layered_plain layered_loaded
  exact ⟨layered_plain, layered_loaded, ⟨given, loaded, overlays, overridden⟩,
    orders _ _ layered_shuffled shuffled_writes, ignores _ _ (.inr layered_adds) plainest_writes⟩

end ConfigSource
end Gatehouse
