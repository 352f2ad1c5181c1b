import Gatehouse.Proofs.Access.Gate

/-! Tokens past their end. A token that is signed here, made for this service and begun is judged by its
end alone. It is accepted up to that second, and too old behind it, as long as the end is a time since
1970. One before that counts as not stated, and then the token is ill formed instead of too old. The gate
reports of a token what it is judged to be. -/
namespace Gatehouse

namespace Token

variable {config : TokenConfig} {now : Int} {claims : Claims}

/-- Claims that are made for the service and have begun, whenever they end. -/
structure Begun (config : TokenConfig) (now : Int) (claims : Claims) : Prop where
  timely : claims.Timely
  issuer : claims.issuer = config.issuer
  audience : config.audience ∈ claims.audience
  started : claims.notBefore ≤ now

theorem check_begun (begun : Begun config now claims) :
    checkClaims config now claims =
      if claims.expiresAt < 0 then .error (.invalid (.missingClaim "exp"))
      else if claims.expiresAt < now then .error .expired
      else .ok () := by
  have started : ¬ (0 ≤ claims.notBefore ∧ now < claims.notBefore) :=
    fun early => absurd begun.started (Int.not_le.mpr early.2)
  simp [checkClaims, started, begun.issuer, begun.audience]

private theorem validate_begun (begun : Begun config now claims) :
    validate config now (sign config claims) =
      if claims.expiresAt < 0 then .error (.invalid (.missingClaim "exp"))
      else if claims.expiresAt < now then .error .expired
      else .ok claims := by
  rw [validate_sign config begun.timely, check_begun begun]
  split_ifs
  · rfl
  · rfl
  · rfl

theorem begun_accepted_iff (begun : Begun config now claims) :
    validate config now (sign config claims) = .ok claims ↔
      0 ≤ claims.expiresAt ∧ now ≤ claims.expiresAt := by
  rw [validate_begun begun]
  split_ifs with before past
  · simp only [false_iff]
    omega
  · simp only [false_iff]
    omega
  · simp only [true_iff]
    omega

theorem begun_expired_iff (begun : Begun config now claims) :
    validate config now (sign config claims) = .error .expired ↔
      0 ≤ claims.expiresAt ∧ claims.expiresAt < now := by
  rw [validate_begun begun]
  split_ifs with before past
  · simp only [Except.error.injEq, reduceCtorEq, false_iff]
    omega
  · simp only [true_iff]
    omega
  · simp only [false_iff]
    omega

theorem begun_unstated_iff (begun : Begun config now claims) :
    validate config now (sign config claims) = .error (.invalid (.missingClaim "exp")) ↔
      claims.expiresAt < 0 := by
  rw [validate_begun begun]
  split_ifs with before past
  · exact iff_of_true rfl before
  · simp [before]
  · simp [before]

end Token

namespace Access

/-- A gate with an observer answers a request with 401, and reports and counts this one reason. -/
def Reports {σ : Type} (config : TokenConfig) (table : SecurityTable) (request : Request)
    (world : World σ) (reason : Reason) : Prop :=
  ∃ answer after, Answers (gate config table true) request world answer after ∧
    answer.status = 401 ∧ after.journal.rejections = world.journal.rejections ++ [reason] ∧
    after.metrics = world.metrics.countRejection reason.code

theorem Fails.reported {σ : Type} {config : TokenConfig} {table : SecurityTable} {request : Request}
    {world : World σ} {reason : Reason} (guarded : Guarded table request)
    (fails : Fails config world.clock.seconds request.headers reason) :
    Reports config table request world reason := by
  obtain ⟨error, failed, rfl⟩ := fails_iff.mp fails
  exact ⟨error.response, _, gate_answers true guarded failed,
    rejection_status (authenticate_error failed).2, rfl, rfl⟩

/-- The end of a token decides. Where the token is authentic, made for this service and begun, it is
accepted exactly up to its last second. Behind that it is refused, and it is too old exactly if that
second is not before 1970. An observed gate lets it through or reports it as what it is. -/
theorem end_decides (config : TokenConfig) (claims : Claims) (now : Nat)
    (begun : Token.Begun config now claims) :
    let token := Token.sign config claims
    let judged := Token.validate config now token
    (judged = .ok claims ↔ now ≤ claims.expiresAt) ∧
    ((judged = .error .expired ↔ claims.expiresAt < now) ↔ 0 ≤ claims.expiresAt) ∧
    (claims.expiresAt < 0 → judged = .error (.invalid (.missingClaim "exp"))) ∧
    ∀ {σ : Type} (table : SecurityTable) (request : Request) (world : World σ) (value : Bytes),
      world.clock.seconds = now → Guarded table request →
      request.headers.get? "authorization" = some value → Carries value token →
      (now ≤ claims.expiresAt → ∃ after,
        after.journal.rejections = world.journal.rejections ∧ after.metrics = world.metrics ∧
        HandsOn (gate config table true) request world { request with
          identity := some ⟨claims.userId, claims.email, claims.role, claims⟩ } after) ∧
      (0 ≤ claims.expiresAt → claims.expiresAt < now →
        Reports config table request world .expired) ∧
      (claims.expiresAt < 0 → Reports config table request world .invalid) := by
  intro token judged
  have accepted_iff : judged = .ok claims ↔ 0 ≤ claims.expiresAt ∧ now ≤ claims.expiresAt :=
    Token.begun_accepted_iff begun
  have expired_iff : judged = .error .expired ↔ 0 ≤ claims.expiresAt ∧ claims.expiresAt < now :=
    Token.begun_expired_iff begun
  refine ⟨?_, ?_, (Token.begun_unstated_iff begun).mpr, ?_⟩
  · rw [accepted_iff]
    omega
  · rw [expired_iff]
    omega
  · intro σ table request world value clock guarded first carries
    refine ⟨fun notPast => ?_, fun stated past => ?_, fun before => ?_⟩
    · have accepted : judged = .ok claims := accepted_iff.mpr ⟨by omega, notPast⟩
      have authenticated : Authenticated config world.clock.seconds request.headers claims :=
        ⟨value, token, first, carries, clock ▸ accepted⟩
      exact ⟨world.logged _, rfl, rfl, gate_admits guarded authenticated⟩
    · have expired : judged = .error .expired := expired_iff.mpr ⟨stated, past⟩
      exact (Fails.expired first carries (clock ▸ expired)).reported guarded
    · have unstated := (Token.begun_unstated_iff begun).mpr before
      exact (Fails.invalid first carries (clock ▸ unstated)).reported guarded

/-- A token that ends in the second before its check, and one that ends in the last second before 1970. -/
theorem end_decides_past :
    let config : TokenConfig := ⟨"issuer", "audience", "secret", 60, 60⟩
    let claims (last : Int) : Claims :=
      ⟨"user", "u@example", "admin", "issuer", "user", ["other", "audience"], last, -5, 0⟩
    let request (last : Int) : Request := ⟨"GET", "/me",
      ⟨[("authorization", Utf8.encode ("Bearer " ++ Token.sign config (claims last)))]⟩, [], none,
      some "/me", none⟩
    let world : World Unit := World.start 1_700_000_000_999_000_000 ()
    Token.validate config (1700000000 : Nat) (Token.sign config (claims 1699999999)) =
        .error .expired ∧
      Reports config .service (request 1699999999) world .expired ∧
      Reports config .service (request (-1)) world .invalid := by
  intro config claims request world
  have beginning : -2 ^ 63 ≤ (-5 : Int) ∧ (-5 : Int) < 2 ^ 63 := by decide
  have issue : -2 ^ 63 ≤ (0 : Int) ∧ (0 : Int) < 2 ^ 63 := by decide
  have begun (last : Int) (timely : -2 ^ 63 ≤ last ∧ last < 2 ^ 63) :
      Token.Begun config (1700000000 : Nat) (claims last) :=
    { timely := ⟨timely, beginning, issue⟩
      issuer := rfl
      audience := List.mem_cons_of_mem _ (List.mem_singleton_self _)
      started := (by decide : (-5 : Int) ≤ 1700000000) }
  have guarded (last : Int) : Guarded .service (request last) :=
    guarded_service_iff.mpr ⟨rfl, .inl rfl⟩
  have carried (last : Int) := carries_framed config.secret (Utf8.encode TokenHeader.issued)
    (Utf8.encode (claims last).toJson)
  obtain ⟨_, expired, _, gate⟩ :=
    end_decides config (claims 1699999999) 1700000000 (begun _ (by decide))
  obtain ⟨_, _, _, other⟩ := end_decides config (claims (-1)) 1700000000 (begun _ (by decide))
  refine ⟨(expired.mpr (by decide)).mpr (by decide), ?_, ?_⟩
  · exact (gate .service _ world _ (by decide) (guarded _) rfl (carried _)).2.1 (by decide)
      (by decide)
  · exact (other .service _ world _ (by decide) (guarded _) rfl (carried _)).2.2 (by decide)

/-- A token that has ended before 1970 is past its end, but it is not judged too old. -/
theorem ended_before_epoch_invalid :
    let config : TokenConfig := .standard
    let claims : Claims := ⟨"user", "u@example", "admin", "boilerplate", "user",
      ["boilerplate_audience"], -1, 0, 0⟩
    claims.issuer = config.issuer ∧ config.audience ∈ claims.audience ∧
      claims.notBefore ≤ 1700000000 ∧ claims.expiresAt < 1700000000 ∧
      Token.validate config 1700000000 (Token.sign config claims) =
        .error (.invalid (.missingClaim "exp")) := by
  intro config claims
  have begun : Token.Begun config 1700000000 claims :=
    ⟨⟨by decide, by decide, by decide⟩, rfl, by decide, by decide⟩
  exact ⟨rfl, by decide, by decide, by decide, (Token.begun_unstated_iff begun).mpr (by decide)⟩

end Access
end Gatehouse
