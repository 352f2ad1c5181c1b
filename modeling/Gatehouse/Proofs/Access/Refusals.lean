import Gatehouse.Proofs.Access.Gate
import Gatehouse.Service.Refresh

/-! Refusals. A credential is refused in two places, at the gate and where a refresh token is to be
exchanged, and for many reasons. The client is not told which: there is one answer for all of them. The
reason goes to the log, and the gate tells it to its observer. -/
namespace Gatehouse.Access

variable {σ : Type}

/-- What every client is told whose credential is refused. -/
def refusal : Response :=
  ⟨401, ⟨[("content-type", Utf8.encode "application/problem+json"),
      ("www-authenticate", Utf8.encode "Bearer")]⟩,
    Utf8.encode ("\x7b\"detail\":\"Unauthorized\",\"status\":401,\"title\":\"Unauthorized\"," ++
      "\"type\":\"https://httpstatuses.io/401\"\x7d"), true⟩

/-- A credential is refused, with an outcome and the world after it, and there may be an observer. Either
the gate deals with a request whatever stands behind it, or a refresh token that has been read and is not
blank is not exchanged for another token. -/
inductive Refuses (world : World σ) : Bool → Except Interrupt Response → World σ → Prop
  | gate {config : TokenConfig} {table : SecurityTable} {observed : Bool} {request : Request}
      {outcome : Except Interrupt Response} {after : World σ}
      (stops : ∀ next : Handler σ,
        (gate config table observed next request).perform world = (outcome, after)) :
      Refuses world observed outcome after
  | refresh {config : TokenConfig} {bodyLimit : Nat} {request : Request} {token : String}
      {outcome : Except Interrupt Response} {after : World σ}
      (read : Refresh.readToken bodyLimit request = .ok token)
      (something : (Blank.trim token).isEmpty = false)
      (refused : ∀ fresh, Token.refreshAccess config world.clock.seconds token ≠ .ok fresh)
      (performed : (Refresh.handler config bodyLimit request).perform world = (outcome, after)) :
      Refuses world false outcome after

/-- The log has more events than before, and an observer has been told a reason. Nothing else is
different. -/
def Confided (observed : Bool) (world after : World σ) : Prop :=
  ∃ reason events, after =
    { world with
      journal := { world.journal with
        events := world.journal.events ++ events
        rejections := world.journal.rejections ++ if observed then [reason] else [] }
      metrics := if observed then world.metrics.countRejection reason.code else world.metrics }

/-- All errors of clients are answered alike. -/
theorem response_refusal {error : AccessError} (kind : error.kind = .unauthorized) :
    error.response = refusal := by
  unfold AccessError.response AccessError.problem
  rw [kind]
  decide +kernel

theorem rejected_confided (observed : Bool) (error : AccessError) (world : World σ) :
    Confided observed world (rejected observed error world) := by
  refine ⟨error.reason, error.events, ?_⟩
  unfold rejected
  cases observed with
  | false => simp
  | true => rfl

variable {world after : World σ} {outcome : Except Interrupt Response}

/-- What comes to the same whatever stands behind a layer is not handed on by it. -/
private theorem stopped_not_handed {layer : Layer σ} {request seen : Request} {before : World σ}
    (stops : ∀ next : Handler σ, (layer next request).perform world = (outcome, after)) :
    ¬ HandsOn layer request world seen before := by
  intro handed
  have interrupted := (handed fun _ => throw .timeUp).symm.trans (stops _)
  have answered := (handed fun _ => return .ofStatus 200).symm.trans (stops _)
  have both := interrupted.trans answered.symm
  cases both

/-- Where the gate stops a request, its authentication has failed, and the gate answers it. -/
theorem gate_stops {config : TokenConfig} {table : SecurityTable} {observed : Bool}
    {request : Request} (stops : ∀ next : Handler σ,
      (gate config table observed next request).perform world = (outcome, after)) :
    ∃ error, authenticate config world.clock.seconds request.headers = .error error ∧
      outcome = .ok error.response ∧ after = rejected observed error world := by
  have guarded : Guarded table request := by
    apply Classical.byContradiction
    intro unguarded
    exact stopped_not_handed stops (gate_open unguarded)
  cases tried : authenticate config world.clock.seconds request.headers with
  | ok claims =>
    exact absurd (gate_admits guarded (authenticate_ok_iff.mp tried)) (stopped_not_handed stops)
  | error error =>
    have both := (stops fun _ => throw .timeUp).symm.trans
      (gate_answers observed guarded tried fun _ => throw .timeUp)
    cases both
    exact ⟨error, rfl, rfl, rfl⟩

/-- A token that is not exchanged has been refused by the check of tokens. -/
theorem refresh_refusal {config : TokenConfig} {now : Int} {token : String} {error : TokenError}
    (refused : Token.refreshAccess config now token = .error error) :
    (AccessError.token error).kind = .unauthorized := by
  rcases bind_error_iff.mp refused with rejected | ⟨claims, _, issued⟩
  · rcases validate_refusal rejected with rfl | ⟨defect, rfl⟩
    · rfl
    · rfl
  · cases issued

theorem handler_refuses {config : TokenConfig} {bodyLimit : Nat} {request : Request}
    {token : String} {error : TokenError} (read : Refresh.readToken bodyLimit request = .ok token)
    (something : (Blank.trim token).isEmpty = false)
    (refused : Token.refreshAccess config world.clock.seconds token = .error error) :
    (Refresh.handler config bodyLimit request).perform world =
      (.ok (AccessError.token error).response, rejected false (.token error) world) := by
  unfold Refresh.handler
  simp only [read, something, Bool.false_eq_true, if_false]
  rw [Run.perform_bind, Run.perform_get]
  simp only [refused]
  rfl

/-- A refused credential has the one answer, and the reason is confided. -/
theorem Refuses.answered {observed : Bool} (refuses : Refuses world observed outcome after) :
    outcome = .ok refusal ∧ Confided observed world after := by
  cases refuses with
  | gate stops =>
    obtain ⟨error, failed, rfl, rfl⟩ := gate_stops stops
    exact ⟨congrArg Except.ok (response_refusal (authenticate_error failed).2),
      rejected_confided _ error world⟩
  | @refresh config bodyLimit request token _ _ read something refused performed =>
    cases exchanged : Token.refreshAccess config world.clock.seconds token with
    | ok fresh => exact absurd exchanged (refused fresh)
    | error error =>
      rw [handler_refuses read something exchanged] at performed
      cases performed
      exact ⟨congrArg Except.ok (response_refusal (refresh_refusal exchanged)),
        rejected_confided _ _ world⟩

/-- Refusals cannot be told apart. Whatever is refused, at the gate or in exchange for a token, with
whatever configuration and at whatever time, and for whatever reason: there is an answer, it is always
the same, and nothing but the log and the observer of the gate has the reason. -/
theorem refusals_alike {τ : Type} {observed others : Bool} {other last : World τ}
    {same : Except Interrupt Response} (refuses : Refuses world observed outcome after)
    (also : Refuses other others same last) :
    outcome = same ∧ outcome = .ok refusal ∧ Confided observed world after ∧
      Confided others other last := by
  obtain ⟨own, confided⟩ := refuses.answered
  obtain ⟨alike, also_confided⟩ := also.answered
  exact ⟨own.trans alike.symm, own, confided, also_confided⟩

/-- A request without a credential at the gate, and a refresh token that is none. -/
theorem refusals_alike_of_two :
    let config : TokenConfig := ⟨"issuer", "audience", "secret", 60, 60⟩
    let stranger : Request := ⟨"GET", "/me", .empty, [], none, some "/me", none⟩
    let exchange : Request := ⟨"POST", "/auth/refresh",
      ⟨[("content-type", Utf8.encode "application/json")]⟩,
      Utf8.encode "\x7b\"refreshToken\":\"x\"\x7d", none, some "/auth/refresh", none⟩
    let world : World Unit := World.start 1_700_000_000_000_000_000 ()
    ∃ outcome after last,
      (∀ next, (gate config .service true next stranger).perform world = (outcome, after)) ∧
        (Refresh.handler config 1000 exchange).perform world = (outcome, last) ∧
        outcome = .ok refusal := by
  intro config stranger exchange world
  have guarded : Guarded .service stranger := needs_credential_iff.mp (by decide)
  have failed : authenticate config world.clock.seconds stranger.headers =
      .error (.credential .missing) := rfl
  have read : Refresh.readToken 1000 exchange = .ok "x" := by
    have token : (Refresh.readToken 1000 exchange).toOption = some "x" := by decide +kernel
    cases tried : Refresh.readToken 1000 exchange with
    | error error =>
      rw [tried] at token
      cases token
    | ok text =>
      rw [tried] at token
      exact congrArg Except.ok (Option.some.inj token)
  have something : (Blank.trim "x").isEmpty = false := by decide +kernel
  have refused : Token.refreshAccess config world.clock.seconds "x" = .error (.invalid .form) := by
    have no_parts : Token.parts? "x" = none := by decide +kernel
    unfold Token.refreshAccess Token.validate
    simp only [no_parts]
    rfl
  have answers := gate_answers true guarded failed
  have performed := handler_refuses read something refused
  have not_exchanged : ∀ fresh, Token.refreshAccess config world.clock.seconds "x" ≠ .ok fresh := by
    intro fresh exchanged
    rw [refused] at exchanged
    cases exchanged
  obtain ⟨same, answer, _, _⟩ :=
    refusals_alike (.gate answers) (.refresh read something not_exchanged performed)
  rw [← same] at performed
  exact ⟨_, _, _, answers, performed, answer⟩

end Gatehouse.Access
