import Gatehouse.Config.Source
import Gatehouse.Proofs.Config.Scopes
import Gatehouse.Proofs.Json.Reordering

/-!
The configuration as an overlay. Every setting has one place in the document. Where something stands
there, the setting is what it says, and otherwise the built-in one, whatever else the document holds.
-/
namespace Gatehouse
open Json Json.Tree Json.Decoder

namespace Json.Decoder

variable {α β σ : Type}

@[simp] theorem optional_name (name : String) (decoder : Decoder α) (set : α → σ → σ) :
    (Field.optional name decoder set).name = name := rfl

end Json.Decoder

theorem Json.Tree.at_append (tree : Tree) (path more : List String) :
    tree.at? (path ++ more) = (tree.at? path).bind fun entry => entry.at? more := by
  induction path generalizing tree with
  | nil => rfl
  | cons name path ih =>
    simp only [List.cons_append, Tree.at?]
    cases tree.member? name with
    | none => rfl
    | some entry => exact ih entry

theorem Json.Tree.at_one (tree : Tree) (name : String) : tree.at? [name] = tree.member? name := by
  simp [Tree.at?]

/-! ## Sections -/

/-- The places of the sections with fixed names. -/
def sectionPaths : List (List String) :=
  [[], ["server"], ["server", "compression"], ["server", "cors"], ["server", "rate_limit"],
    ["server", "metrics"], ["jwt"], ["redis"], ["database"], ["logger"]]

/-- The place of a section, one of a scope among them. -/
def IsSectionPath (path : List String) : Prop :=
  path ∈ sectionPaths ∨
    ∃ name, LimitsConfig.IsScopeName name ∧ path = ["server", "rate_limit", name]

/-- Every section that stands in the document is an object that names no member twice. -/
def Json.Tree.HasPlainSections (tree : Tree) : Prop :=
  ∀ path, IsSectionPath path → ∀ entry, tree.at? path = some entry → entry.HasDistinctNames

theorem Json.Tree.HasDistinctNames.members {tree : Tree} (distinct : tree.HasDistinctNames) :
    ∃ members, tree = .object members := by
  cases tree with
  | object members => exact ⟨members, rfl⟩
  | _ => exact distinct.elim

/-- Where no name is repeated the last member of a name is the first. -/
theorem section_of_distinct {tree : Tree} {name : String} (distinct : tree.HasDistinctNames) :
    tree.section? name = tree.member? name := by
  obtain ⟨members, rfl⟩ := distinct.members
  rw [section?]
  cases found : (Tree.object members.reverse).member? name with
  | none =>
    rw [member_none_iff] at found
    exact (member_none_iff.mpr (by simpa using found)).symm
  | some entry =>
    obtain ⟨member, held, spelled, rfl⟩ := member_held found
    exact (member_of_mem distinct (List.mem_reverse.mp held) spelled).symm

theorem compression_sound : CompressionConfig.shape.IsSection where
  definite := by
    simp only [CompressionConfig.shape, List.forall_mem_cons]
    exact ⟨field_definite _ bool_definite _, field_definite _ (nat_definite _ (by decide)) _, by simp⟩
  mayMiss := by simp [CompressionConfig.shape, Field.optional]

theorem cors_sound : CorsConfig.shape.IsSection where
  definite := by
    have texts : Definite (list text) := list_definite (text_definite _)
    simp only [CorsConfig.shape, List.forall_mem_cons]
    exact ⟨field_definite _ texts _, field_definite _ texts _, field_definite _ texts _,
      field_definite _ texts _, field_definite _ bool_definite _,
      field_definite _ (nat_definite _ (by decide)) _, by simp⟩
  mayMiss := by simp [CorsConfig.shape, Field.optional]

theorem metrics_sound : MetricsConfig.shape.IsSection where
  definite := by
    simp only [MetricsConfig.shape, List.forall_mem_cons]
    exact ⟨field_definite _ bool_definite _, field_definite _ (text_definite _) _,
      field_definite _ (list_definite (text_definite _)) _, by simp⟩
  mayMiss := by simp [MetricsConfig.shape, Field.optional]

theorem server_sound : ServerConfig.shape.IsSection where
  definite := by
    simp only [ServerConfig.shape, List.forall_mem_cons]
    exact ⟨field_definite _ (text_definite _) _, field_definite _ (nat_definite _ (by decide)) _,
      field_definite _ (nat_definite _ (by decide)) _, field_definite _ (nat_definite _ (by decide)) _,
      field_definite _ (nat_definite _ (by decide)) _,
      field_definite _ (record_definite compression_sound) _,
      field_definite _ (record_definite cors_sound) _,
      field_definite _ (open_record_definite LimitsConfig.shape_sound _) _,
      field_definite _ (record_definite metrics_sound) _, by simp⟩
  mayMiss := by simp [ServerConfig.shape, Field.optional]

theorem tokens_sound : TokenConfig.shape.IsSection where
  definite := by
    simp only [TokenConfig.shape, List.forall_mem_cons]
    exact ⟨field_definite _ (text_definite _) _, field_definite _ (text_definite _) _,
      field_definite _ (text_definite _) _, field_definite _ (nat_definite _ (by decide)) _,
      field_definite _ (nat_definite _ (by decide)) _, by simp⟩
  mayMiss := by simp [TokenConfig.shape, Field.optional]

theorem database_sound : DatabaseConfig.shape.IsSection where
  definite := by
    simp only [DatabaseConfig.shape, List.forall_mem_cons]
    exact ⟨field_definite _ (optional_definite (text_definite _)) _,
      field_definite _ (nat_definite _ (by decide)) _, by simp⟩
  mayMiss := by simp [DatabaseConfig.shape, Field.optional]

namespace AppConfig

theorem redis_sound : redisShape.IsSection where
  definite := by
    simp only [redisShape, List.forall_mem_cons]
    exact ⟨field_definite _ (text_definite _) _, by simp⟩
  mayMiss := by simp [redisShape, Field.optional]

theorem logger_sound : loggerShape.IsSection where
  definite := by
    simp only [loggerShape, List.forall_mem_cons]
    exact ⟨field_definite _ (text_definite _) _, by simp⟩
  mayMiss := by simp [loggerShape, Field.optional]

theorem shape_sound : shape.IsSection where
  definite := by
    simp only [shape, List.forall_mem_cons]
    exact ⟨field_definite _ (record_definite server_sound) _,
      field_definite _ (record_definite tokens_sound) _,
      field_definite _ (record_definite redis_sound) _,
      field_definite _ (record_definite database_sound) _,
      field_definite _ (record_definite logger_sound) _, by simp⟩
  mayMiss := by simp [shape, Field.optional]

/-! ## Settings -/

/-- A setting: its place in the document, what stands there means, and where it is kept. -/
structure Setting where
  {kind : Type}
  path : List String
  meaning : Tree → Option kind
  get : AppConfig → kind

/-- All settings but the sections of scopes. -/
def settings : List Setting := [
  ⟨["server", "host"], text?, (·.server.host)⟩,
  ⟨["server", "port"], nat?, (·.server.port)⟩,
  ⟨["server", "read_timeout"], nat?, (·.server.readTimeout)⟩,
  ⟨["server", "shutdown_timeout"], nat?, (·.server.shutdownTimeout)⟩,
  ⟨["server", "max_request_size"], nat?, (·.server.maxRequestSize)⟩,
  ⟨["server", "compression", "enabled"], bool?, (·.server.compression.enabled)⟩,
  ⟨["server", "compression", "level"], nat?, (·.server.compression.level)⟩,
  ⟨["server", "cors", "allowed_origins"], items? text?, (·.server.cors.origins)⟩,
  ⟨["server", "cors", "allowed_methods"], items? text?, (·.server.cors.methods)⟩,
  ⟨["server", "cors", "allowed_headers"], items? text?, (·.server.cors.headers)⟩,
  ⟨["server", "cors", "exposed_headers"], items? text?, (·.server.cors.exposed)⟩,
  ⟨["server", "cors", "allow_credentials"], bool?, (·.server.cors.credentials)⟩,
  ⟨["server", "cors", "max_age"], nat?, (·.server.cors.maxAge)⟩,
  ⟨["server", "rate_limit", "backend"],
    fun entry => entry.name?.bind fun name => StoreBackend.names.lookup name,
    (·.server.limits.backend)⟩,
  ⟨["server", "rate_limit", "store_timeout_ms"], nat?, (·.server.limits.storeTimeout)⟩,
  ⟨["server", "metrics", "enabled"], bool?, (·.server.metrics.enabled)⟩,
  ⟨["server", "metrics", "path"], text?, (·.server.metrics.path)⟩,
  ⟨["server", "metrics", "exclude_paths"], items? text?, (·.server.metrics.excluded)⟩,
  ⟨["jwt", "issuer"], text?, (·.tokens.issuer)⟩,
  ⟨["jwt", "audience"], text?, (·.tokens.audience)⟩,
  ⟨["jwt", "secret_key"], text?, (·.tokens.secret)⟩,
  ⟨["jwt", "access_token_ttl"], nat?, (·.tokens.accessLifetime)⟩,
  ⟨["jwt", "refresh_token_ttl"], nat?, (·.tokens.refreshLifetime)⟩,
  ⟨["redis", "url"], text?, (·.redisUrl)⟩,
  ⟨["database", "url"], orNull? text?, (·.database.url)⟩,
  ⟨["database", "max_connections"], nat?, (·.database.maxConnections)⟩,
  ⟨["logger", "level"], text?, (·.logLevel)⟩]

/-! ## Every setting from its place -/

variable {α σ τ : Type} {decoder : Decoder α} {path : List String} {name : String}

/-- What stands at the path is taken for what is got, and where nothing stands the standard is got. -/
def Supplied (decoder : Decoder α) (path : List String) (get : AppConfig → α) : Prop :=
  ∀ ⦃tree : Tree⦄ ⦃config : AppConfig⦄, tree.HasPlainSections → Takes (record shape) tree config →
    Overlays (Takes decoder) (tree.at? path) (get .standard) (get config)

/-- A section of the document: it is supplied, and where it does not stand it is a blank one. -/
structure IsPart (fields : Shape σ) (path : List String) (get : AppConfig → σ) : Prop where
  supplied : Supplied (record fields) path get
  sound : fields.IsSection
  listed : path ∈ sectionPaths
  blank : fields.blank = get .standard

/-- A field of a section is supplied itself. -/
theorem IsPart.field {fields : Shape σ} {get : AppConfig → σ} {pick : σ → α}
    (part : IsPart fields path get) (holds : fields.Holds name decoder pick) :
    Supplied decoder (path ++ [name]) fun config => pick (get config) := by
  intro tree config plain taken
  have given := part.supplied plain taken
  rw [Tree.at_append]
  cases here : tree.at? path with
  | none =>
    rw [here] at given
    exact congrArg pick given
  | some entry =>
    rw [here] at given
    obtain ⟨members, rfl⟩ := (plain path (.inl part.listed) entry here).members
    have told := record_overlays part.sound holds given
    rw [part.blank] at told
    rwa [Option.bind_some, Tree.at_one]

/-- So is one of an open section, if finishing the section leaves it as it is. -/
theorem Supplied.open_field {fields : Shape σ} {finish : σ → List (String × Value) → Except Json.Cause τ}
    {get : AppConfig → τ} {pick : σ → α} {pickFinished : τ → α}
    (supplied : Supplied (openRecord fields finish) path get) (sound : fields.IsSection)
    (blank : pick fields.blank = pickFinished (get .standard))
    (leaves : ∀ record kept value, finish record kept = .ok value → pickFinished value = pick record)
    (holds : fields.Holds name decoder pick) :
    Supplied decoder (path ++ [name]) fun config => pickFinished (get config) := by
  intro tree config plain taken
  have given := supplied plain taken
  rw [Tree.at_append]
  cases here : tree.at? path with
  | none =>
    rw [here] at given
    exact congrArg pickFinished given
  | some entry =>
    rw [here] at given
    obtain ⟨members, record, depth, -, -, finished, holding⟩ := open_record_parts sound given
    have told := holding holds
    rw [blank, ← leaves _ _ _ finished] at told
    rwa [Option.bind_some, Tree.at_one]

section Fields

variable {name : String} {decoder : Decoder α}

theorem whole_part : IsPart shape [] id :=
  ⟨fun _ _ _ taken => taken, shape_sound, by decide, rfl⟩

/-- A field of the document itself that no other field touches. -/
theorem app_field {pick : AppConfig → α} (holds : shape.Holds name decoder pick) :
    Supplied decoder [name] pick :=
  whole_part.field holds

theorem server_part : IsPart ServerConfig.shape ["server"] (·.server) :=
  ⟨app_field ⟨⟨_, rfl, fun _ _ => rfl⟩, by simp [shape]⟩, server_sound, by decide, rfl⟩

theorem server_field {pick : ServerConfig → α} (holds : ServerConfig.shape.Holds name decoder pick) :
    Supplied decoder ["server", name] fun config => pick config.server :=
  server_part.field holds

theorem compression_part :
    IsPart CompressionConfig.shape ["server", "compression"] (·.server.compression) :=
  ⟨server_field ⟨⟨_, rfl, fun _ _ => rfl⟩, by simp [ServerConfig.shape]⟩, compression_sound,
    by decide, rfl⟩

theorem cors_part : IsPart CorsConfig.shape ["server", "cors"] (·.server.cors) :=
  ⟨server_field ⟨⟨_, rfl, fun _ _ => rfl⟩, by simp [ServerConfig.shape]⟩, cors_sound, by decide, rfl⟩

theorem metrics_part : IsPart MetricsConfig.shape ["server", "metrics"] (·.server.metrics) :=
  ⟨server_field ⟨⟨_, rfl, fun _ _ => rfl⟩, by simp [ServerConfig.shape]⟩, metrics_sound, by decide,
    rfl⟩

theorem limits_supplied : Supplied LimitsConfig.decoder ["server", "rate_limit"] (·.server.limits) :=
  server_field ⟨⟨_, rfl, fun _ _ => rfl⟩, by simp [ServerConfig.shape]⟩

theorem tokens_part : IsPart TokenConfig.shape ["jwt"] (·.tokens) :=
  ⟨app_field ⟨⟨_, rfl, fun _ _ => rfl⟩, by simp [shape]⟩, tokens_sound, by decide, rfl⟩

theorem redis_supplied : Supplied text ["redis", "url"] (·.redisUrl) := by
  have part : IsPart redisShape ["redis"] (·.redisUrl) :=
    ⟨app_field ⟨⟨_, rfl, fun _ _ => rfl⟩, by simp [shape]⟩, redis_sound, by decide, rfl⟩
  have holds : redisShape.Holds "url" text id := ⟨⟨_, rfl, fun _ _ => rfl⟩, by simp [redisShape]⟩
  exact part.field holds

theorem database_part : IsPart DatabaseConfig.shape ["database"] (·.database) :=
  ⟨app_field ⟨⟨_, rfl, fun _ _ => rfl⟩, by simp [shape]⟩, database_sound, by decide, rfl⟩

theorem logger_supplied : Supplied text ["logger", "level"] (·.logLevel) := by
  have part : IsPart loggerShape ["logger"] (·.logLevel) :=
    ⟨app_field ⟨⟨_, rfl, fun _ _ => rfl⟩, by simp [shape]⟩, logger_sound, by decide, rfl⟩
  have holds : loggerShape.Holds "level" text id := ⟨⟨_, rfl, fun _ _ => rfl⟩, by simp [loggerShape]⟩
  exact part.field holds

/-- The sections of scopes leave the settings of the store as they are. -/
theorem limits_field {pick : LimitsConfig → α} (holds : LimitsConfig.shape.Holds name decoder pick)
    (leaves : ∀ config scopes, pick { config with scopes } = pick config) :
    Supplied decoder ["server", "rate_limit", name] fun config => pick config.server.limits := by
  refine limits_supplied.open_field LimitsConfig.shape_sound rfl ?_ holds
  intro record kept value finished
  obtain ⟨scopes, -, same⟩ := bind_ok_iff.mp finished
  cases same
  exact leaves record scopes

end Fields

/-- The setting is what the document has at its place, and otherwise the standard one. -/
def Setting.IsTold (setting : Setting) : Prop :=
  ∀ ⦃tree : Tree⦄ ⦃config : AppConfig⦄, tree.HasPlainSections → Takes (record shape) tree config →
    Overlays (fun entry value => setting.meaning entry = some value) (tree.at? setting.path)
      (setting.get .standard) (setting.get config)

theorem Setting.IsTold.of (decoder : Decoder α) {get : AppConfig → α} {meaning : Tree → Option α}
    (supplied : Supplied decoder path get)
    (told : ∀ {tree value}, Takes decoder tree value → meaning tree = some value) :
    Setting.IsTold ⟨path, meaning, get⟩ :=
  fun _ _ plain taken => (supplied plain taken).imp fun _ => told

/-- A list of texts. -/
theorem texts_told {tree : Tree} {values : List String} (taken : Takes (list text) tree values) :
    tree.items? text? = some values := list_told (fun depth tree => text_makes _ depth tree) taken

/-- Each setting is a field of its section, and no other field of the section touches it. -/
theorem settings_told : ∀ setting ∈ settings, setting.IsTold := by
  simp only [settings, List.forall_mem_cons]
  refine ⟨.of text (server_field ?_) text_told,
    .of uint16 (server_field ?_) (nat_told (by decide)),
    .of uint64 (server_field ?_) (nat_told (by decide)),
    .of uint64 (server_field ?_) (nat_told (by decide)),
    .of wordSize (server_field ?_) (nat_told (by decide)),
    .of bool (compression_part.field ?_) bool_told,
    .of uint32 (compression_part.field ?_) (nat_told (by decide)),
    .of (list text) (cors_part.field ?_) texts_told,
    .of (list text) (cors_part.field ?_) texts_told,
    .of (list text) (cors_part.field ?_) texts_told,
    .of (list text) (cors_part.field ?_) texts_told,
    .of bool (cors_part.field ?_) bool_told,
    .of uint64 (cors_part.field ?_) (nat_told (by decide)),
    .of (choice StoreBackend.names) (limits_field ?_ fun _ _ => rfl) choice_told,
    .of uint64 (limits_field ?_ fun _ _ => rfl) (nat_told (by decide)),
    .of bool (metrics_part.field ?_) bool_told,
    .of text (metrics_part.field ?_) text_told,
    .of (list text) (metrics_part.field ?_) texts_told,
    .of text (tokens_part.field ?_) text_told,
    .of text (tokens_part.field ?_) text_told,
    .of text (tokens_part.field ?_) text_told,
    .of uint64 (tokens_part.field ?_) (nat_told (by decide)),
    .of uint64 (tokens_part.field ?_) (nat_told (by decide)),
    .of text redis_supplied text_told,
    .of (optional text) (database_part.field ?_)
      (optional_told fun depth tree => text_makes _ depth tree),
    .of uint32 (database_part.field ?_) (nat_told (by decide)),
    .of text logger_supplied text_told, by simp⟩
  all_goals
    exact ⟨⟨_, rfl, fun _ _ => rfl⟩, by simp [ServerConfig.shape, CompressionConfig.shape,
      CorsConfig.shape, LimitsConfig.shape, MetricsConfig.shape, TokenConfig.shape,
      DatabaseConfig.shape]⟩

/-! ## The whole document -/

/-- The settings are what the document has at their places and the standard ones elsewhere, and so
are the parts of every section of a scope. -/
structure IsOverlay (tree : Tree) (config : AppConfig) : Prop where
  settings : ∀ setting ∈ AppConfig.settings,
    Overlays (fun entry value => setting.meaning entry = some value) (tree.at? setting.path)
      (setting.get .standard) (setting.get config)
  once : (config.server.limits.scopes.map Prod.fst).Nodup
  scopes : ∀ name, LimitsConfig.IsScopeName name →
    Overlays (fun given found => ∃ patch, found = some patch ∧ RateLimit.PolicyPatch.Patched given patch)
      (tree.at? ["server", "rate_limit", name]) none (config.server.limits.scopes.lookup name)
  others : ∀ name, ¬ LimitsConfig.IsScopeName name → config.server.limits.scopes.lookup name = none

variable {tree : Tree} {config : AppConfig}

theorem config_overlays (plain : tree.HasPlainSections) (taken : Takes (record shape) tree config) :
    IsOverlay tree config := by
  have settings := fun setting listed => settings_told setting listed plain taken
  have limits := limits_supplied plain taken
  have below (name : String) : tree.at? ["server", "rate_limit", name] =
      (tree.at? ["server", "rate_limit"]).bind fun entry => entry.at? [name] :=
    tree.at_append ["server", "rate_limit"] [name]
  cases here : tree.at? ["server", "rate_limit"] with
  | none =>
    rw [here] at limits
    have standard : config.server.limits = .standard := limits
    refine ⟨settings, by simp [standard, LimitsConfig.standard], fun name _ => ?_, fun name _ => ?_⟩
    · rw [below, here, standard]
      rfl
    · rw [standard]
      rfl
  | some entry =>
    rw [here] at limits
    obtain ⟨once, named, told⟩ := LimitsConfig.sectioned limits
    have distinct := plain ["server", "rate_limit"] (.inl (by decide)) entry here
    refine ⟨settings, once, fun name isScope => ?_, fun name noScope => ?_⟩
    · have given := told name isScope
      rw [section_of_distinct distinct] at given
      rw [below, here, Option.bind_some, Tree.at_one]
      exact given
    · rw [lookup_none_iff, named]
      exact fun names => noScope names.1

/-- The other way to put sections of scopes. -/
def withScopes (config : AppConfig) (scopes : List (String × RateLimit.PolicyPatch)) : AppConfig :=
  { config with server := { config.server with
      limits := { config.server.limits with scopes := scopes } } }

/-- The table misses nothing. -/
theorem determined_by_settings {first second : AppConfig}
    (same : ∀ setting ∈ settings, setting.get first = setting.get second) :
    first = second.withScopes first.server.limits.scopes := by
  simp only [settings, List.forall_mem_cons] at same
  obtain ⟨⟨_, _, _, _, _, ⟨_, _⟩, ⟨_, _, _, _, _, _⟩, ⟨_, _, _⟩, ⟨_, _, _⟩⟩, ⟨_, _, _, _, _⟩, _,
    ⟨_, _⟩, _⟩ := first
  obtain ⟨⟨_, _, _, _, _, ⟨_, _⟩, ⟨_, _, _, _, _, _⟩, ⟨_, _, _⟩, ⟨_, _, _⟩⟩, ⟨_, _, _, _, _⟩, _,
    ⟨_, _⟩, _⟩ := second
  simp only at same
  simp [withScopes, same]

end AppConfig
end Gatehouse
