import Gatehouse.Access.Gate
import Gatehouse.Proofs.Access.Credential
import Gatehouse.Proofs.Service.Run
import Gatehouse.Proofs.Token.RoundTrip

/-! Who gets past the gate. Where the table asks for a credential a request is handed on with the
identity of its token, or else it is answered at the gate and the first step that fails is reported.
Everywhere else the gate does nothing. -/
namespace Gatehouse.Access

/-! ## Guarded routes -/

/-- What the last row of a table for some method and route asks for. -/
def SecurityTable.Says (table : SecurityTable) (method route : String)
    (requirement : Requirement) : Prop :=
  ∃ before behind, table.rows = before ++ ((method, route), requirement) :: behind ∧
    ∀ row ∈ behind, row.1 ≠ (method, route)

/-- A request that needs a credential: it has a route, and the table says so for its method, where
`HEAD` counts as `GET`. -/
def Guarded (table : SecurityTable) (request : Request) : Prop :=
  ∃ route, request.route = some route ∧
    table.Says (if request.method = "HEAD" then "GET" else request.method) route .bearer

/-- The look-up goes from the last row up. -/
theorem lookup_iff_says {table : SecurityTable} {method route : String} {requirement : Requirement} :
    table.rows.reverse.lookup (method, route) = some requirement ↔
      table.Says method route requirement := by
  unfold SecurityTable.Says
  rw [List.lookup_eq_some_iff]
  constructor
  · rintro ⟨behind, before, reversed, others⟩
    refine ⟨before.reverse, behind.reverse, ?_, ?_⟩
    · rw [← List.reverse_reverse table.rows, reversed]
      simp
    · intro row member same
      have different := others row (List.mem_reverse.mp member)
      rw [same] at different
      simp at different
  · rintro ⟨before, behind, rows, others⟩
    refine ⟨behind.reverse, before.reverse, ?_, ?_⟩
    · rw [rows]
      simp
    · intro row member
      have different := others row (List.mem_reverse.mp member)
      exact bne_iff_ne.mpr (Ne.symm different)

theorem requirement_bearer_iff {table : SecurityTable} {method route : String} :
    table.requirement method route = .bearer ↔
      table.Says (if method = "HEAD" then "GET" else method) route .bearer := by
  unfold SecurityTable.requirement
  generalize (if method = "HEAD" then "GET" else method) = looked_up
  rw [← lookup_iff_says]
  change (table.rows.reverse.lookup (looked_up, route)).getD .anyone = .bearer ↔ _
  cases table.rows.reverse.lookup (looked_up, route) with
  | none => simp
  | some requirement => simp

theorem needs_credential_iff {table : SecurityTable} {request : Request} :
    needsCredential table request = true ↔ Guarded table request := by
  unfold needsCredential Guarded
  cases request.route with
  | none => simp
  | some route =>
    simp only [Option.any_some, beq_iff_eq, requirement_bearer_iff, Option.some.injEq,
      exists_eq_left']

/-- The security table of the service has one row. -/
theorem says_service_iff {method route : String} :
    SecurityTable.service.Says method route .bearer ↔ method = "GET" ∧ route = "/me" := by
  have rows : SecurityTable.service.rows = [(("GET", "/me"), .bearer)] := rfl
  unfold SecurityTable.Says
  rw [rows]
  constructor
  · rintro ⟨before, behind, same, _⟩
    rcases List.singleton_eq_append_iff.mp same with ⟨_, row⟩ | ⟨_, none_left⟩
    · cases row
      exact ⟨rfl, rfl⟩
    · cases none_left
  · rintro ⟨rfl, rfl⟩
    exact ⟨[], [], rfl, fun row member => by cases member⟩

theorem guarded_service_iff {request : Request} :
    Guarded .service request ↔
      request.route = some "/me" ∧ (request.method = "GET" ∨ request.method = "HEAD") := by
  have looked_up : (if request.method = "HEAD" then "GET" else request.method) = "GET" ↔
      request.method = "GET" ∨ request.method = "HEAD" := by
    by_cases heads : request.method = "HEAD"
    · simp [heads]
    · simp [heads]
  unfold Guarded
  simp only [says_service_iff, looked_up]
  constructor
  · rintro ⟨route, routed, asked, rfl⟩
    exact ⟨routed, asked⟩
  · rintro ⟨routed, asked⟩
    exact ⟨"/me", routed, asked, rfl⟩

/-! ## Credentials -/

variable {config : TokenConfig} {now : Int} {headers : Headers} {claims : Claims}

/-- The first `authorization` value carries a token that is accepted at some time. -/
def Authenticated (config : TokenConfig) (now : Int) (headers : Headers) (claims : Claims) : Prop :=
  ∃ value token, headers.get? "authorization" = some value ∧ Carries value token ∧
    Token.validate config now token = .ok claims

/-- The reason of the first step that fails on the way to an accepted token. -/
inductive Fails (config : TokenConfig) (now : Int) (headers : Headers) : Reason → Prop
  | missing (absent : headers.get? "authorization" = none) : Fails config now headers .missingHeader
  | scheme {value : Bytes} (first : headers.get? "authorization" = some value)
      (something : ¬ CarriesNothing value) (other : ∀ token, ¬ Carries value token) :
      Fails config now headers .invalidScheme
  | empty {value : Bytes} (first : headers.get? "authorization" = some value)
      (nothing : CarriesNothing value) : Fails config now headers .emptyToken
  | expired {value : Bytes} {token : String} (first : headers.get? "authorization" = some value)
      (carries : Carries value token)
      (expired : Token.validate config now token = .error .expired) :
      Fails config now headers .expired
  | invalid {value : Bytes} {token : String} {defect : TokenDefect}
      (first : headers.get? "authorization" = some value) (carries : Carries value token)
      (invalid : Token.validate config now token = .error (.invalid defect)) :
      Fails config now headers .invalid

private theorem check_refusal {error : TokenError}
    (refused : Token.checkClaims config now claims = .error error) :
    error = .expired ∨ ∃ defect, error = .invalid defect := by
  unfold Token.checkClaims at refused
  split_ifs at refused with absent expired early foreign elsewhere
  · cases refused
    exact .inr ⟨_, rfl⟩
  · cases refused
    exact .inl rfl
  · cases refused
    exact .inr ⟨_, rfl⟩
  · cases refused
    exact .inr ⟨_, rfl⟩
  · cases refused
    exact .inr ⟨_, rfl⟩

/-- A token that is refused is too old or ill formed; the check of a token signs nothing. -/
theorem validate_refusal {token : String} {error : TokenError}
    (refused : Token.validate config now token = .error error) :
    error = .expired ∨ ∃ defect, error = .invalid defect := by
  have invalid (defect : TokenDefect) (same : .invalid defect = error) :
      error = .expired ∨ ∃ defect, error = .invalid defect := .inr ⟨defect, same.symm⟩
  unfold Token.validate at refused
  cases cut : Token.parts? token with
  | none =>
    simp only [cut] at refused
    cases refused
    exact invalid _ rfl
  | some parts =>
    simp only [cut, bind_error_iff, map_error_error_iff] at refused
    rcases refused with ⟨defect, _, same⟩ | ⟨⟨header, _⟩, _, refused⟩
    · exact invalid defect same
    split_ifs at refused with foreign forged
    · cases refused
      exact invalid _ rfl
    · cases refused
      exact invalid _ rfl
    -- the signature is right, so only the payload and its claims can be refused
    rw [bind_error_iff] at refused
    rcases refused with unread | ⟨stated, _, refused⟩
    · obtain ⟨defect, _, same⟩ := map_error_error_iff.mp unread
      exact invalid defect same
    rw [bind_error_iff] at refused
    rcases refused with unfit | ⟨_, _, accepted⟩
    · exact check_refusal unfit
    · cases accepted

theorem authenticate_ok_iff :
    authenticate config now headers = .ok claims ↔ Authenticated config now headers claims := by
  unfold authenticate
  constructor
  · intro accepted
    cases read : bearerToken headers with
    | error error =>
      rw [read] at accepted
      cases accepted
    | ok token =>
      rw [read] at accepted
      obtain ⟨value, first, carries⟩ := bearer_token_iff.mp read
      exact ⟨value, token, first, carries, map_error_ok_iff.mp accepted⟩
  · rintro ⟨value, token, first, carries, accepted⟩
    rw [bearer_token_iff.mpr ⟨value, first, carries⟩]
    exact map_error_ok_iff.mpr accepted

/-- A failed authentication has the reason of the first step that fails, and is no error of the
service. -/
theorem authenticate_error {error : AccessError}
    (refused : authenticate config now headers = .error error) :
    Fails config now headers error.reason ∧ error.kind = .unauthorized := by
  unfold authenticate at refused
  cases read : bearerToken headers with
  | error credential =>
    rw [read] at refused
    cases refused
    cases credential with
    | missing => exact ⟨.missing (bearer_token_missing_iff.mp read), rfl⟩
    | otherScheme =>
      obtain ⟨value, first, something, other⟩ := bearer_token_other_iff.mp read
      exact ⟨.scheme first something other, rfl⟩
    | emptyToken =>
      obtain ⟨value, first, nothing⟩ := bearer_token_empty_iff.mp read
      exact ⟨.empty first nothing, rfl⟩
  | ok token =>
    rw [read] at refused
    obtain ⟨value, first, carries⟩ := bearer_token_iff.mp read
    obtain ⟨cause, rejected, rfl⟩ := map_error_error_iff.mp refused
    rcases validate_refusal rejected with rfl | ⟨defect, rfl⟩
    · exact ⟨.expired first carries rejected, rfl⟩
    · exact ⟨.invalid first carries rejected, rfl⟩

theorem fails_iff {reason : Reason} :
    Fails config now headers reason ↔
      ∃ error, authenticate config now headers = .error error ∧ error.reason = reason := by
  constructor
  · intro fails
    unfold authenticate
    cases fails with
    | missing absent =>
      rw [bearer_token_missing_iff.mpr absent]
      exact ⟨_, rfl, rfl⟩
    | scheme first something other =>
      rw [bearer_token_other_iff.mpr ⟨_, first, something, other⟩]
      exact ⟨_, rfl, rfl⟩
    | empty first nothing =>
      rw [bearer_token_empty_iff.mpr ⟨_, first, nothing⟩]
      exact ⟨_, rfl, rfl⟩
    | expired first carries expired =>
      rw [bearer_token_iff.mpr ⟨_, first, carries⟩]
      exact ⟨_, map_error_error_iff.mpr ⟨_, expired, rfl⟩, rfl⟩
    | invalid first carries invalid =>
      rw [bearer_token_iff.mpr ⟨_, first, carries⟩]
      exact ⟨_, map_error_error_iff.mpr ⟨_, invalid, rfl⟩, rfl⟩
  · rintro ⟨error, refused, rfl⟩
    exact (authenticate_error refused).1

theorem Fails.unique {reason other : Reason} (fails : Fails config now headers reason)
    (also : Fails config now headers other) : reason = other := by
  obtain ⟨error, refused, rfl⟩ := fails_iff.mp fails
  obtain ⟨same, again, rfl⟩ := fails_iff.mp also
  rw [refused] at again
  cases again
  rfl

/-! ## The gate -/

variable {σ : Type}

/-- The world once a rejection has been reported, where the gate is observed, and logged. -/
def rejected (observed : Bool) (error : AccessError) (world : World σ) : World σ :=
  let reported := if observed then
    { world with
      journal := { world.journal with rejections := world.journal.rejections ++ [error.reason] }
      metrics := world.metrics.countRejection error.reason.code }
    else world
  { reported with
    journal := { reported.journal with events := reported.journal.events ++ error.events } }

variable {table : SecurityTable} {observed : Bool} {request : Request} {world : World σ}

/-- The identity of a token is what its payload says. -/
theorem authenticated_payload (authenticated : Authenticated config now headers claims) :
    ∃ value token header payload, headers.get? "authorization" = some value ∧
      Carries value token ∧ token = Token.framed config.secret header payload ∧
      Json.Decoder.run (Json.Decoder.record Claims.shape) payload = .ok claims := by
  obtain ⟨value, token, first, carries, accepted⟩ := authenticated
  obtain ⟨header, payload, framing, acceptable⟩ := Token.validate_ok_iff.mp accepted
  exact ⟨value, token, header, payload, first, carries, framing, acceptable.payloadRead⟩

theorem gate_open (unguarded : ¬ Guarded table request) :
    HandsOn (gate config table observed) request world request world := by
  intro next
  have free : needsCredential table request = false :=
    Bool.eq_false_iff.mpr fun needed => unguarded (needs_credential_iff.mp needed)
  unfold gate
  rw [free]
  rfl

theorem gate_admits (guarded : Guarded table request)
    (authenticated : Authenticated config world.clock.seconds request.headers claims) :
    HandsOn (gate config table observed) request world
      { request with identity := some ⟨claims.userId, claims.email, claims.role, claims⟩ }
      (world.logged ⟨.debug, "Request authenticated", [("user_id", claims.userId)]⟩) := by
  intro next
  have accepted := authenticate_ok_iff.mpr authenticated
  unfold gate
  rw [needs_credential_iff.mpr guarded, if_pos rfl, Run.perform_bind, Run.perform_get]
  simp only [accepted]
  rfl

theorem rejection_status {error : AccessError} (kind : error.kind = .unauthorized) :
    error.response.status = 401 := by
  unfold AccessError.response AccessError.problem
  rw [kind]
  rfl

/-- A guarded request whose authentication fails is answered at the gate. -/
theorem gate_answers {error : AccessError} (observed : Bool) (guarded : Guarded table request)
    (failed : authenticate config world.clock.seconds request.headers = .error error) :
    Answers (gate config table observed) request world error.response
      (rejected observed error world) := by
  intro next
  unfold gate rejected
  rw [needs_credential_iff.mpr guarded, if_pos rfl, Run.perform_bind, Run.perform_get]
  simp only [failed]
  cases observed with
  | false => rfl
  | true => rfl

/-- What a rejection leaves: the reason for the observer, where there is one. -/
theorem gate_rejects (observed : Bool) (world : World σ) (guarded : Guarded table request)
    (refused : ∀ claims, ¬ Authenticated config world.clock.seconds request.headers claims) :
    ∃ answer reason after, Answers (gate config table observed) request world answer after ∧
      answer.status = 401 ∧ Fails config world.clock.seconds request.headers reason ∧
      after.journal.rejections =
        world.journal.rejections ++ if observed then [reason] else [] := by
  cases tried : authenticate config world.clock.seconds request.headers with
  | ok claims => exact absurd (authenticate_ok_iff.mp tried) (refused claims)
  | error error =>
    obtain ⟨fails, kind⟩ := authenticate_error tried
    refine ⟨error.response, error.reason, _, gate_answers observed guarded tried,
      rejection_status kind, fails, ?_⟩
    unfold rejected
    cases observed with
    | false => exact (List.append_nil _).symm
    | true => rfl

/-- The gate lets exactly the authenticated through. What stands behind it on a guarded route runs only on
a request whose first credential carries an accepted token, and sees the identity in the payload of that
token. Every other request there is answered with 401, and the observer learns the one reason that
applies. On all other routes the request is handed on without an identity, and nothing is reported. -/
theorem gate_lets_authenticated_through (config : TokenConfig) (table : SecurityTable)
    (observed : Bool) (request : Request) (world : World σ)
    (unidentified : request.identity = none) :
    let now := world.clock.seconds
    (Guarded table request →
      ((∃ seen after, HandsOn (gate config table observed) request world seen after) ↔
        ∃ claims, Authenticated config now request.headers claims) ∧
      (∀ claims, Authenticated config now request.headers claims →
        (∃ after, after.journal.rejections = world.journal.rejections ∧
          HandsOn (gate config table observed) request world
            { request with
              identity := some ⟨claims.userId, claims.email, claims.role, claims⟩ } after) ∧
        ∃ value token header payload, request.headers.get? "authorization" = some value ∧
          Carries value token ∧ token = Token.framed config.secret header payload ∧
          Json.Decoder.run (Json.Decoder.record Claims.shape) payload = .ok claims) ∧
      ((∀ claims, ¬ Authenticated config now request.headers claims) →
        ∃ answer reason after, Answers (gate config table observed) request world answer after ∧
          answer.status = 401 ∧
          (∀ other, Fails config now request.headers other ↔ other = reason) ∧
          after.journal.rejections =
            world.journal.rejections ++ if observed then [reason] else [])) ∧
    (¬ Guarded table request →
      HandsOn (gate config table observed) request world { request with identity := none } world) ∧
    ∀ answer after, Answers (gate config table observed) request world answer after →
      answer.status = 401 := by
  intro now
  have rejects (guarded : Guarded table request)
      (refused : ∀ claims, ¬ Authenticated config now request.headers claims) :=
    gate_rejects observed world guarded refused
  refine ⟨fun guarded => ⟨?_, ?_, ?_⟩, ?_, ?_⟩
  · constructor
    · rintro ⟨seen, after, handed⟩
      apply Classical.byContradiction
      intro nobody
      obtain ⟨answer, _, last, answers, _⟩ := rejects guarded (not_exists.mp nobody)
      exact answers.not_hands_on handed
    · rintro ⟨claims, authenticated⟩
      exact ⟨_, _, gate_admits guarded authenticated⟩
  · intro claims authenticated
    exact ⟨⟨world.logged _, rfl, gate_admits guarded authenticated⟩,
      authenticated_payload authenticated⟩
  · intro refused
    obtain ⟨answer, reason, after, answers, status, fails, reported⟩ := rejects guarded refused
    refine ⟨answer, reason, after, answers, status, fun other => ?_, reported⟩
    constructor
    · intro also
      exact also.unique fails
    · rintro rfl
      exact fails
  · intro unguarded
    have same : { request with identity := none } = request := by
      rw [← unidentified]
    rw [same]
    exact gate_open unguarded
  · intro answer after answers
    have guarded : Guarded table request := by
      apply Classical.byContradiction
      intro unguarded
      exact answers.not_hands_on (gate_open unguarded)
    have refused : ∀ claims, ¬ Authenticated config now request.headers claims := by
      intro claims authenticated
      exact answers.not_hands_on (gate_admits guarded authenticated)
    obtain ⟨rejection, _, last, rejected, status, _⟩ := rejects guarded refused
    rw [answers.unique rejected]
    exact status

/-- `HEAD` on a guarded route with a token in the middle of its life, and `GET` without one. -/
theorem gate_lets_authenticated_through_issued :
    let config : TokenConfig := ⟨"issuer", "audience", "secret", 60, 60⟩
    let token := Token.issue config (1700000000 : Nat) "user" "u@example" "admin" 60
    let claims : Claims := ⟨"user", "u@example", "admin", "issuer", "user", ["audience"],
      1700000060, 1700000000, 1700000000⟩
    let known : Request := ⟨"HEAD", "/me",
      ⟨[("authorization", Utf8.encode ("Bearer " ++ token))]⟩, [], none, some "/me", none⟩
    let stranger : Request := ⟨"GET", "/me", .empty, [], none, some "/me", none⟩
    let world : World Unit := World.start 1_700_000_030_000_000_000 ()
    (∃ after, after.journal.rejections = [] ∧
      HandsOn (gate config .service true) known world
        { known with identity := some ⟨"user", "u@example", "admin", claims⟩ } after) ∧
    ∃ answer after, Answers (gate config .service true) stranger world answer after ∧
      answer.status = 401 ∧ after.journal.rejections = [.missingHeader] := by
  intro config token claims known stranger world
  have accepted : Token.validate config world.clock.seconds token = .ok claims :=
    (Token.validate_issued config "user" "u@example" "admin" 60 (by decide) 1700000030).trans rfl
  have authenticated : Authenticated config world.clock.seconds known.headers claims :=
    ⟨_, token, rfl, carries_framed _ _ _, accepted⟩
  have guarded (request : Request) (needs : needsCredential .service request) :
      Guarded .service request := needs_credential_iff.mp needs
  constructor
  · exact ((gate_lets_authenticated_through config .service true known world rfl).1
      (guarded known (by decide))).2.1 claims authenticated |>.1
  · have absent : Fails config world.clock.seconds stranger.headers .missingHeader :=
      .missing rfl
    have nobody : ∀ claims, ¬ Authenticated config world.clock.seconds stranger.headers claims := by
      rintro claims ⟨value, token, first, _⟩
      cases first
    obtain ⟨answer, reason, after, answers, status, unique, reported⟩ :=
      ((gate_lets_authenticated_through config .service true stranger world rfl).1
        (guarded stranger (by decide))).2.2 nobody
    rw [← (unique .missingHeader).mp absent] at reported
    exact ⟨answer, after, answers, status, reported⟩

end Gatehouse.Access
