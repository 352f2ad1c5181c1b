import Gatehouse.Proofs.Access.Credential
import Gatehouse.Proofs.Http.Fields

/-!
The grammar of bearer credentials over all `authorization` values of a request. It has one rule for each
way to read them, and the token of a request is read by exactly these rules. A value of another scheme
is told by its bytes alone: one of them is not plain, or they do not start with the scheme. Tokens that
are signed here are in the grammar.
-/
namespace Gatehouse.Access

/-- What the `authorization` values of a request, in their order, say of its bearer. -/
inductive Reads : List Bytes → Except CredentialError String → Prop where
  | missing : Reads [] (.error .missing)
  | token {value more token} (carried : Carries value token) : Reads (value :: more) (.ok token)
  | emptyToken {value more} (nothing : CarriesNothing value) :
      Reads (value :: more) (.error .emptyToken)
  | otherScheme {value more}
      (strange : (∃ b ∈ value, ¬ IsPlain b) ∨ ¬ Utf8.encode "Bearer " <+: value) :
      Reads (value :: more) (.error .otherScheme)

variable {headers : Headers} {value : Bytes}

/-! ## Another scheme -/

/-- There is something behind the scheme exactly if a plain value starts with it. -/
theorem some_behind_scheme_iff :
    (∃ rest, ((headerText? value).bind fun text => afterScheme? text.toList) = some rest) ↔
      (∀ b ∈ value, IsPlain b) ∧ Utf8.encode "Bearer " <+: value := by
  simp only [behind_scheme_iff, Utf8.encode_append]
  constructor
  · rintro ⟨rest, plain, rfl⟩
    exact ⟨plain, List.prefix_append _ _⟩
  · rintro ⟨plain, tail, rfl⟩
    have written := Utf8.encode_ascii fun b member =>
      (plain b (List.mem_append_right _ member)).ascii
    exact ⟨_, plain, congrArg _ written.symm⟩

theorem none_behind_scheme_iff :
    ((headerText? value).bind fun text => afterScheme? text.toList) = none ↔
      (∃ b ∈ value, ¬ IsPlain b) ∨ ¬ Utf8.encode "Bearer " <+: value := by
  rw [Option.eq_none_iff_forall_ne_some, ← not_exists, some_behind_scheme_iff, not_and_or]
  simp only [not_forall, exists_prop]

/-- A first value is of another scheme exactly if it is not plain or does not start with the scheme. -/
theorem bearer_token_scheme_iff :
    bearerToken headers = .error .otherScheme ↔
      ∃ value, headers.get? "authorization" = some value ∧
        ((∃ b ∈ value, ¬ IsPlain b) ∨ ¬ Utf8.encode "Bearer " <+: value) := by
  cases first : headers.get? "authorization" with
  | none => simp [bearer_token_missing_iff.mpr first]
  | some value =>
    simp only [Option.some.injEq, exists_eq_left', ← none_behind_scheme_iff]
    unfold bearerToken
    rw [first]
    cases behind : (headerText? value).bind fun text => afterScheme? text.toList with
    | none => simp [behind]
    | some rest =>
      simp only [behind]
      cases Blank.trimWhere Blank.isBlank rest with
      | nil => simp
      | cons c others => simp

/-! ## All values -/

/-- The token of a request is read by the rules and by nothing else. -/
theorem bearer_token_reads (headers : Headers) (outcome : Except CredentialError String) :
    bearerToken headers = outcome ↔ Reads (headers.getAll "authorization") outcome := by
  constructor
  · intro read
    cases outcome with
    | ok token =>
      obtain ⟨value, first, carried⟩ := bearer_token_iff.mp read
      obtain ⟨more, values⟩ := Headers.get?_some_iff.mp first
      rw [values]
      exact .token carried
    | error problem =>
      cases problem with
      | missing =>
        rw [Headers.get?_none_iff.mp (bearer_token_missing_iff.mp read)]
        exact .missing
      | otherScheme =>
        obtain ⟨value, first, strange⟩ := bearer_token_scheme_iff.mp read
        obtain ⟨more, values⟩ := Headers.get?_some_iff.mp first
        rw [values]
        exact .otherScheme strange
      | emptyToken =>
        obtain ⟨value, first, nothing⟩ := bearer_token_empty_iff.mp read
        obtain ⟨more, values⟩ := Headers.get?_some_iff.mp first
        rw [values]
        exact .emptyToken nothing
  · intro reads
    generalize values : headers.getAll "authorization" = all at reads
    cases reads with
    | missing => exact bearer_token_missing_iff.mpr (Headers.get?_none_iff.mpr values)
    | token carried =>
      exact bearer_token_iff.mpr ⟨_, Headers.get?_some_iff.mpr ⟨_, values⟩, carried⟩
    | emptyToken nothing =>
      exact bearer_token_empty_iff.mpr ⟨_, Headers.get?_some_iff.mpr ⟨_, values⟩, nothing⟩
    | otherScheme strange =>
      exact bearer_token_scheme_iff.mpr ⟨_, Headers.get?_some_iff.mpr ⟨_, values⟩, strange⟩

/-! ## Signed tokens -/

/-- A token that is signed here is carried by the value that names it. -/
theorem carries_signed (config : TokenConfig) (claims : Claims) :
    Carries (Utf8.encode ("Bearer " ++ Token.sign config claims)) (Token.sign config claims) :=
  carries_framed config.secret _ _

/-- A request is read by the grammar of its `authorization` values and by nothing else: it has a token, is
without one, has none at all, or has another scheme. Whatever claims are signed, the value that consists
of the scheme and the token gives the token back, where it is the first one. -/
theorem bearer_token_grammar (headers : Headers) :
    (∀ outcome, bearerToken headers = outcome ↔
      Reads (headers.getAll "authorization") outcome) ∧
    ∀ config claims more,
      headers.getAll "authorization" =
          Utf8.encode ("Bearer " ++ Token.sign config claims) :: more →
        bearerToken headers = .ok (Token.sign config claims) := by
  refine ⟨bearer_token_reads headers, fun config claims more values => ?_⟩
  rw [bearer_token_reads, values]
  exact .token (carries_signed config claims)

/-- Of two values the first one counts. -/
theorem bearer_token_grammar_two :
    let config : TokenConfig := ⟨"issuer", "audience", "secret", 60, 60⟩
    let claims : Claims := ⟨"user", "u@example", "admin", "issuer", "user", ["audience"], 60, 0, 0⟩
    let value := Utf8.encode ("Bearer " ++ Token.sign config claims)
    let headers : Headers := ⟨[("authorization", value), ("authorization", Utf8.encode "Basic b3I=")]⟩
    headers.getAll "authorization" = [value, Utf8.encode "Basic b3I="] ∧
      bearerToken headers = .ok (Token.sign config claims) := by
  intro config claims value headers
  have values : headers.getAll "authorization" = [value, Utf8.encode "Basic b3I="] := rfl
  exact ⟨values, (bearer_token_grammar headers).2 config claims _ values⟩

end Gatehouse.Access
