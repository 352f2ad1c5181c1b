import Gatehouse.Proofs.Cors.Building
import Gatehouse.Proofs.Http.Fields
import Gatehouse.Proofs.Service.Layers

/-! What answers tell foreign pages. The rules put at most one value into each of the fields for the origin
and for credentials, by themselves before a page may call and over the answer of a handler afterwards. As
long as the handler sets neither of the two, what they grant can be told from the configuration. -/
namespace Gatehouse.Cors

variable {σ : Type}

/-! ## What the rules put in -/

/-- What rules tell a page in answer to its request. -/
structure Tells (rules : Rules) (request answer : Headers) : Prop where
  origin : answer.getAll "access-control-allow-origin" = (rules.allowedOrigin request).toList
  credentials : answer.getAll "access-control-allow-credentials" =
    if rules.credentials then [Utf8.encode "true"] else []

/-- An answer that tells a page nothing yet. -/
def Silent (answer : Headers) : Prop :=
  answer.getAll "access-control-allow-origin" = [] ∧
    answer.getAll "access-control-allow-credentials" = []

private theorem getAll_both (first second : List (String × Bytes)) (name : String) :
    (⟨first ++ second⟩ : Headers).getAll name =
      (⟨first⟩ : Headers).getAll name ++ (⟨second⟩ : Headers).getAll name := by
  unfold Headers.getAll
  rw [List.filter_append, List.map_append]

private theorem getAll_field (own : String) (value : Option String) (name : String) :
    (⟨field own value⟩ : Headers).getAll name =
      if own = name then (value.map Utf8.encode).toList else [] := by
  cases value with
  | none => exact (ite_self _).symm
  | some text => exact Headers.getAll_append .empty name own (Utf8.encode text)

private theorem getAll_credentials_field (rules : Rules) (name : String) :
    (⟨rules.credentialsField⟩ : Headers).getAll name =
      if "access-control-allow-credentials" = name then
        if rules.credentials then [Utf8.encode "true"] else []
      else [] := by
  unfold Rules.credentialsField
  rw [getAll_field]
  cases rules.credentials with
  | true => rfl
  | false => rfl

private theorem getAll_origin_field (rules : Rules) (request : Headers) (name : String) :
    (⟨rules.originField request⟩ : Headers).getAll name =
      if "access-control-allow-origin" = name then (rules.allowedOrigin request).toList else [] := by
  unfold Rules.originField
  cases rules.allowedOrigin request with
  | none => exact (ite_self _).symm
  | some value => exact Headers.getAll_append .empty name _ value

theorem preflight_tells (rules : Rules) (request : Headers) :
    Tells rules request (rules.preflight request).headers := by
  have vary (name : String) (other : name ≠ "vary") :
      (⟨[("vary", Utf8.encode varyValue)]⟩ : Headers).getAll name = [] := by
    simp [Headers.getAll, other.symm]
  unfold Rules.preflight
  constructor
  · simp only [getAll_both, getAll_credentials_field, getAll_field, getAll_origin_field]
    rw [vary _ (by decide)]
    simp
  · simp only [getAll_both, getAll_credentials_field, getAll_field, getAll_origin_field]
    rw [vary _ (by decide)]
    simp

theorem decorate_tells (rules : Rules) (request : Headers) {answer : Headers}
    (silent : Silent answer) : Tells rules request (rules.decorate request answer) := by
  have put : rules.decorate request answer =
      (answer.append "vary" (Utf8.encode varyValue)).insertAll (rules.credentialsField ++
        field "access-control-expose-headers" rules.exposed ++ rules.originField request) := rfl
  rw [put]
  constructor
  · rw [Headers.getAll_insertAll]
    simp only [getAll_both, getAll_credentials_field, getAll_field, getAll_origin_field]
    cases rules.allowedOrigin request with
    | none => simp [silent.1]
    | some value => simp
  · rw [Headers.getAll_insertAll]
    simp only [getAll_both, getAll_credentials_field, getAll_field, getAll_origin_field]
    cases rules.credentials with
    | false => simp [silent.2]
    | true => simp

/-! ## What is configured -/

/-- A configured origin, once the blanks around it are gone, that can be the value of a field. -/
def Configured (config : CorsConfig) (value : Bytes) : Prop :=
  ∃ origin ∈ config.origins, usableOrigin origin = true ∧ Utf8.encode (Blank.trim origin) = value

/-- What a configuration grants a page in answer to its request. -/
structure Granted (config : CorsConfig) (request answer : Headers) : Prop where
  apart : ¬ (Utf8.encode "*" ∈ answer.getAll "access-control-allow-origin" ∧
    Utf8.encode "true" ∈ answer.getAll "access-control-allow-credentials")
  any : Utf8.encode "*" ∈ answer.getAll "access-control-allow-origin" ↔ "*" ∈ config.origins
  single : (answer.getAll "access-control-allow-origin").length ≤ 1
  listed : "*" ∉ config.origins → ∀ value,
    value ∈ answer.getAll "access-control-allow-origin" ↔
      request.get? "origin" = some value ∧ Configured config value
  credentials : answer.getAll "access-control-allow-credentials" =
    if config.credentials = true ∧ "*" ∉ config.origins then [Utf8.encode "true"] else []

theorem mem_listed_iff {config : CorsConfig} {value : Bytes} :
    value ∈ listedOrigins config ↔ Configured config value := by
  rw [listed_usable, List.mem_map]
  simp only [List.mem_filter, and_assoc]
  rfl

theorem granted_of_told {config : CorsConfig} {made : Rules} {request answer : Headers}
    (succeeded : rules config = .ok made) (tells : Tells made request answer) :
    Granted config request answer := by
  obtain ⟨plain, follow⟩ := rules_follow succeeded
  have credentials : answer.getAll "access-control-allow-credentials" =
      if config.credentials = true ∧ "*" ∉ config.origins then [Utf8.encode "true"] else [] := by
    rw [tells.credentials]
    exact if_congr follow.credentials rfl rfl
  by_cases any : "*" ∈ config.origins
  · have told : answer.getAll "access-control-allow-origin" = [Utf8.encode "*"] := by
      rw [tells.origin]
      unfold Rules.allowedOrigin
      rw [follow.origins, if_pos any]
      rfl
    have none_told : answer.getAll "access-control-allow-credentials" = [] := by
      rw [credentials, if_neg fun both => both.2 any]
    refine ⟨?_, ?_, ?_, absurd any, credentials⟩
    · rw [none_told]
      exact fun both => List.not_mem_nil both.2
    · rw [told]
      exact iff_of_true List.mem_cons_self any
    · rw [told]
      exact Nat.le_refl 1
  · have told : answer.getAll "access-control-allow-origin" =
        ((request.get? "origin").filter (listedOrigins config).contains).toList := by
      rw [tells.origin]
      unfold Rules.allowedOrigin
      rw [follow.origins, if_neg any]
    have listed (value : Bytes) : value ∈ answer.getAll "access-control-allow-origin" ↔
        request.get? "origin" = some value ∧ Configured config value := by
      rw [told, Option.mem_toList, Option.filter_eq_some_iff, List.contains_iff_mem,
        mem_listed_iff]
    -- A wildcard that is listed has blanks around it, and of those no rules can be made.
    have foreign : Utf8.encode "*" ∉ answer.getAll "access-control-allow-origin" := by
      rw [listed]
      rintro ⟨_, origin, member, _, same⟩
      exact plain ⟨any, origin, member, Utf8.encode_injective same⟩
    refine ⟨fun both => foreign both.1, iff_of_false foreign any, ?_, fun _ => listed, credentials⟩
    rw [told]
    exact Option.length_toList_le

/-- Answers grant what is configured and no more, whatever the page asks and whichever handler stands
behind the rules, as long as its own answers are silent. Only requests that are not answered by the rules
alone can end without an answer, and they do if the handler does. -/
theorem answers_granted {config : CorsConfig} {made : Rules} (succeeded : rules config = .ok made)
    {next : Handler σ} (silent : ∀ request world answer after,
      (next request).perform world = (.ok answer, after) → Silent answer.headers)
    (request : Request) (world : World σ) :
    match (made.layer next request).perform world with
    | (.ok answer, _) => Granted config request.headers answer.headers
    | (.error interrupt, after) =>
      request.method ≠ "OPTIONS" ∧ (next request).perform world = (.error interrupt, after) := by
  by_cases asks : request.method = "OPTIONS"
  · rw [made.layer_preflight next world asks]
    exact granted_of_told succeeded (preflight_tells made request.headers)
  · rw [made.layer_perform next world asks]
    cases performed : (next request).perform world with
    | mk outcome after =>
      cases outcome with
      | ok answer =>
        exact granted_of_told succeeded
          (decorate_tells made request.headers (silent request world answer after performed))
      | error interrupt => exact ⟨asks, rfl⟩

/-- A page that is listed with blanks around it, and a handler that answers every request. -/
theorem answers_granted_listed_page :
    let config := { CorsConfig.standard with
      origins := [" https://app.example "], credentials := true }
    let page : Bytes := Utf8.encode "https://app.example"
    let request : Request := ⟨"GET", "/", ⟨[("origin", page)]⟩, [], none, none, none⟩
    let next : Handler Unit := fun _ => return .plain "inner"
    ∃ made answer after, rules config = .ok made ∧
      (made.layer next request).perform (World.start 0 ()) = (.ok answer, after) ∧
      Granted config request.headers answer.headers ∧
      page ∈ answer.headers.getAll "access-control-allow-origin" := by
  intro config page request next
  have plain : ¬ HiddenWildcard config := by
    rintro ⟨_, origin, member, same⟩
    rw [List.mem_singleton.mp member] at same
    exact absurd same (by decide)
  obtain ⟨made, succeeded, _⟩ := rules_made config plain
  have silent (request : Request) (world : World Unit) (answer : Response) (after : World Unit)
      (performed : (next request).perform world = (.ok answer, after)) : Silent answer.headers := by
    cases performed
    exact ⟨rfl, rfl⟩
  have granted := answers_granted succeeded silent request (World.start 0 ())
  rw [made.layer_perform next _ (by decide)] at granted
  have listed : Configured config page := ⟨_, List.mem_cons_self, by decide +kernel, by decide +kernel⟩
  exact ⟨made, _, _, succeeded, made.layer_perform next _ (by decide), granted,
    (granted.listed (by decide) page).mpr ⟨rfl, listed⟩⟩

end Gatehouse.Cors
