import Gatehouse.Proofs.Access.Refusals
import Gatehouse.Proofs.Service.Routes
import Gatehouse.Proofs.Token.Renewal
import Gatehouse.Service.Handlers

/-! Exchanges of refresh tokens, from the request to the answer. What a request is answered follows from
its content type, from its body with the limit on it, and from how the token in the body is judged at the
time. A body in another format or one that holds no token is a bad request, one beyond the limit is too
long, a token that is refused gets the refusal that everyone gets, and one that is accepted gets an access
token that is accepted at the same time, for whom the first one names. -/
namespace Gatehouse.Refresh
open Json Json.Decoder Router

variable {σ : Type}

/-! ## Documents with one text -/

/-- Records that consist of one text. -/
def soleText (name key : String) : Shape String where
  name := name
  blank := ""
  shortLists := false
  fields := [.required key text fun v _ => v]

/-- What an exchange is answered with. -/
def answerShape : Shape String := soleText "RefreshResponse" "accessToken"

theorem sole_text_reads (name key value : String) :
    run (record (soleText name key)) (Utf8.encode (objectText [(key, quote value)])) = .ok value := by
  let entry : Entry String := .setting key (quote value) (fun v _ => v) value
  have fits : ∀ own ∈ [entry], own.Fits 0 (soleText name key).fields := by
    intro own member
    rw [List.mem_singleton.mp member]
    exact Entry.setting_fits (List.find?_cons_of_pos (beq_self_eq_true key)) rfl
      (text_reads "a string" value)
  have reads := whole_record_reads (soleText name key) fits rfl (List.pairwise_singleton _ key)
  have members : [entry].map Entry.member = [(key, quote value)] := rfl
  have put : [entry].foldl (fun record entry => entry.put record) (soleText name key).blank = value :=
    rfl
  rw [members, put] at reads
  exact document_reads reads (by decide)

/-! ## What a request presents -/

/-- A request presents a token: it says that its body is JSON, the body is within the limit, and it is
read as a record with this token. -/
structure Presents (bodyLimit : Nat) (request : Request) (token : String) : Prop where
  json : saysJson request.headers = true
  fits : request.body.length ≤ bodyLimit
  read : run (record shape) request.body = .ok token

/-- Nothing but blanks. -/
def IsBlank (text : String) : Prop := ∀ c ∈ text.toList, Blank.isBlank c = true

instance (text : String) : Decidable (IsBlank text) :=
  inferInstanceAs (Decidable (∀ c ∈ text.toList, _))

theorem is_blank_iff {text : String} : (Blank.trim text).isEmpty = true ↔ IsBlank text := by
  unfold Blank.trim IsBlank
  rw [String.isEmpty_iff, ← String.toList_eq_nil_iff, String.toList_ofList, Blank.trim_nil_iff]

/-- Tokens that are signed here are something, as they contain dots. -/
theorem signed_not_blank (config : TokenConfig) (claims : Claims) :
    ¬ IsBlank (Token.sign config claims) := by
  intro blank
  have dot : '.' ∈ (Token.sign config claims).toList := by
    unfold Token.sign
    rw [String.toList_append, String.toList_append]
    exact List.mem_append_left _ (List.mem_append_right _ (by decide))
  exact absurd (blank '.' dot) (by decide)

/-- The status that an exchange is due. -/
inductive Due (config : TokenConfig) (bodyLimit : Nat) (now : Int) (request : Request) : Nat → Prop
  | otherFormat (other : saysJson request.headers = false) : Due config bodyLimit now request 400
  | tooLong (json : saysJson request.headers = true) (long : bodyLimit < request.body.length) :
      Due config bodyLimit now request 413
  | unread {fault : Fault} (json : saysJson request.headers = true)
      (fits : request.body.length ≤ bodyLimit)
      (unread : run (record shape) request.body = .error fault) : Due config bodyLimit now request 400
  | blank {token : String} (presents : Presents bodyLimit request token) (blank : IsBlank token) :
      Due config bodyLimit now request 400
  | refused {token : String} {error : TokenError} (presents : Presents bodyLimit request token)
      (something : ¬ IsBlank token) (refused : Token.validate config now token = .error error) :
      Due config bodyLimit now request 401
  | granted {token : String} {claims : Claims} (presents : Presents bodyLimit request token)
      (something : ¬ IsBlank token) (accepted : Token.validate config now token = .ok claims) :
      Due config bodyLimit now request 200

variable {config : TokenConfig} {bodyLimit : Nat} {now : Int} {request : Request} {status : Nat}

private theorem Due.status_eq (due : Due config bodyLimit now request status) :
    status = if saysJson request.headers = false then 400
      else if bodyLimit < request.body.length then 413
      else match run (record shape) request.body with
        | .error _ => 400
        | .ok token =>
          if IsBlank token then 400
          else match Token.validate config now token with
            | .error _ => 401
            | .ok _ => 200 := by
  cases due with
  | otherFormat other => simp [other]
  | tooLong json long => simp [json, long]
  | unread json fits unread => simp [json, Nat.not_lt.mpr fits, unread]
  | blank presents blank =>
    simp [presents.json, Nat.not_lt.mpr presents.fits, presents.read, blank]
  | refused presents something refused =>
    simp [presents.json, Nat.not_lt.mpr presents.fits, presents.read, something, refused]
  | granted presents something accepted =>
    simp [presents.json, Nat.not_lt.mpr presents.fits, presents.read, something, accepted]

/-- There is one status that is due. -/
theorem Due.unique {other : Nat} (due : Due config bodyLimit now request status)
    (also : Due config bodyLimit now request other) : status = other :=
  due.status_eq.trans also.status_eq.symm

/-- A request that says the same of its body, and has the same body, is due the same. -/
theorem Due.of_same {other : Request} (due : Due config bodyLimit now request status)
    (headers : saysJson other.headers = saysJson request.headers)
    (body : other.body = request.body) : Due config bodyLimit now other status := by
  have also {token : String} (presents : Presents bodyLimit request token) :
      Presents bodyLimit other token :=
    ⟨headers.trans presents.json, body ▸ presents.fits, body ▸ presents.read⟩
  cases due with
  | otherFormat other => exact .otherFormat (headers.trans other)
  | tooLong json long => exact .tooLong (headers.trans json) (body ▸ long)
  | unread json fits unread => exact .unread (headers.trans json) (body ▸ fits) (body ▸ unread)
  | blank presents blank => exact .blank (also presents) blank
  | refused presents something refused => exact .refused (also presents) something refused
  | granted presents something accepted => exact .granted (also presents) something accepted

/-- Without a token to be judged, the time makes no difference. -/
theorem Due.without_token (due : Due config bodyLimit now request status)
    (nothing : ∀ token, Presents bodyLimit request token → IsBlank token) :
    status = if saysJson request.headers = true ∧ bodyLimit < request.body.length then 413
      else 400 := by
  cases due with
  | otherFormat other => simp [other]
  | tooLong json long => simp [json, long]
  | unread json fits unread => simp [json, Nat.not_lt.mpr fits]
  | blank presents blank => simp [presents.json, Nat.not_lt.mpr presents.fits]
  | refused presents something refused => exact absurd (nothing _ presents) something
  | granted presents something accepted => exact absurd (nothing _ presents) something

theorem due_too_long_iff : Due config bodyLimit now request 413 ↔
    saysJson request.headers = true ∧ bodyLimit < request.body.length := by
  constructor
  · intro due
    cases due with
    | tooLong json long => exact ⟨json, long⟩
  · rintro ⟨json, long⟩
    exact .tooLong json long

theorem due_bad_iff : Due config bodyLimit now request 400 ↔
    saysJson request.headers = false ∨
      (request.body.length ≤ bodyLimit ∧ ∃ fault, run (record shape) request.body = .error fault) ∨
      ∃ token, Presents bodyLimit request token ∧ IsBlank token := by
  constructor
  · intro due
    cases due with
    | otherFormat other => exact .inl other
    | unread json fits unread => exact .inr (.inl ⟨fits, _, unread⟩)
    | blank presents blank => exact .inr (.inr ⟨_, presents, blank⟩)
  · rintro (other | ⟨fits, fault, unread⟩ | ⟨token, presents, blank⟩)
    · exact .otherFormat other
    · cases json : saysJson request.headers with
      | false => exact .otherFormat json
      | true => exact .unread json fits unread
    · exact .blank presents blank

theorem due_refused_iff : Due config bodyLimit now request 401 ↔
    ∃ token, Presents bodyLimit request token ∧ ¬ IsBlank token ∧
      ∃ error, Token.validate config now token = .error error := by
  constructor
  · intro due
    cases due with
    | refused presents something refused => exact ⟨_, presents, something, _, refused⟩
  · rintro ⟨token, presents, something, error, refused⟩
    exact .refused presents something refused

theorem due_granted_iff : Due config bodyLimit now request 200 ↔
    ∃ token, Presents bodyLimit request token ∧ ¬ IsBlank token ∧
      ∃ claims, Token.validate config now token = .ok claims := by
  constructor
  · intro due
    cases due with
    | granted presents something accepted => exact ⟨_, presents, something, _, accepted⟩
  · rintro ⟨token, presents, something, claims, accepted⟩
    exact .granted presents something accepted

/-! ## What a request is answered -/

/-- Answers to an exchange: a problem of the client's, the refusal that everyone gets, or a new token. -/
inductive Answered (config : TokenConfig) (bodyLimit : Nat) (now : Int) (request : Request) :
    Response → Prop
  | problem {kind : ProblemKind} (message : String) (due : Due config bodyLimit now request kind.status)
      (own : kind = .badRequest ∨ kind = .payloadTooLarge) :
      Answered config bodyLimit now request (Problem.of kind message).response
  | refusal (due : Due config bodyLimit now request 401) :
      Answered config bodyLimit now request Access.refusal
  | grant {token : String} {claims : Claims} (presents : Presents bodyLimit request token)
      (something : ¬ IsBlank token) (accepted : Token.validate config now token = .ok claims) :
      Answered config bodyLimit now request
        (grant (Token.issueAccess config now claims.userId claims.email claims.role))

theorem read_token_ok {token : String} (read : readToken bodyLimit request = .ok token) :
    Presents bodyLimit request token := by
  unfold readToken at read
  cases json : saysJson request.headers with
  | false => simp [json] at read
  | true =>
    by_cases long : bodyLimit < request.body.length
    · simp [json, long] at read
    · simp only [json, Bool.not_true, Bool.false_eq_true, if_false, long] at read
      exact ⟨json, Nat.not_lt.mp long, map_error_ok_iff.mp read⟩

/-- A body that is refused has the status of its defect. -/
theorem read_token_error {error : BodyError} (config : TokenConfig) (now : Int)
    (refused : readToken bodyLimit request = .error error) :
    Due config bodyLimit now request error.kind.status ∧
      (error.kind = .badRequest ∨ error.kind = .payloadTooLarge) := by
  unfold readToken at refused
  cases json : saysJson request.headers with
  | false =>
    simp only [json, Bool.not_false, if_true] at refused
    cases refused
    exact ⟨.otherFormat json, .inl rfl⟩
  | true =>
    simp only [json, Bool.not_true, Bool.false_eq_true, if_false] at refused
    split at refused
    next long =>
      cases refused
      exact ⟨.tooLong json long, .inr rfl⟩
    next fits =>
      obtain ⟨fault, unread, rfl⟩ := map_error_error_iff.mp refused
      exact ⟨.unread json (Nat.not_lt.mp fits) unread, .inl rfl⟩

/-- Every request for an exchange is answered, as it is due. -/
theorem handler_answered (config : TokenConfig) (bodyLimit : Nat) (request : Request)
    (world : World σ) : ∃ answer after,
      (handler config bodyLimit request).perform world = (.ok answer, after) ∧
        Answered config bodyLimit world.clock.seconds request answer := by
  cases read : readToken bodyLimit request with
  | error error =>
    obtain ⟨due, own⟩ := read_token_error config world.clock.seconds read
    unfold handler
    simp only [read]
    exact ⟨_, _, rfl, .problem error.message due own⟩
  | ok token =>
    have presents := read_token_ok read
    cases empty : (Blank.trim token).isEmpty with
    | true =>
      unfold handler
      simp only [read, empty, if_true]
      exact ⟨_, _, rfl, .problem _ (.blank presents (is_blank_iff.mp empty)) (.inl rfl)⟩
    | false =>
      have something : ¬ IsBlank token := fun blank => by
        rw [is_blank_iff.mpr blank] at empty
        cases empty
      cases exchanged : Token.refreshAccess config world.clock.seconds token with
      | error error =>
        have refused := Token.refresh_error_iff.mp exchanged
        have alike := Access.response_refusal (Access.refresh_refusal exchanged)
        refine ⟨_, _, Access.handler_refuses read empty exchanged, ?_⟩
        rw [alike]
        exact .refusal (.refused presents something refused)
      | ok fresh =>
        obtain ⟨claims, accepted, rfl⟩ := Token.refresh_ok_iff.mp exchanged
        unfold handler
        simp only [read, empty, Bool.false_eq_true, if_false]
        rw [Run.perform_bind, Run.perform_get]
        simp only [exchanged]
        exact ⟨_, _, rfl, .grant presents something accepted⟩

namespace Answered

variable {answer : Response}

theorem due (answered : Answered config bodyLimit now request answer) :
    Due config bodyLimit now request answer.status := by
  cases answered with
  | problem message due own => exact due
  | refusal due => exact due
  | grant presents something accepted => exact .granted presents something accepted

theorem status_iff (answered : Answered config bodyLimit now request answer) :
    answer.status = status ↔ Due config bodyLimit now request status := by
  constructor
  · rintro rfl
    exact answered.due
  · exact answered.due.unique

end Answered

/-! ## Through the routes -/

/-- The routes that have to do with tokens. -/
def routes (config : TokenConfig) (bodyLimit : Nat) : Except RouteDefect (Table σ) := do
  let table ← Table.empty.add "POST" "/auth/refresh" (handler config bodyLimit)
  table.add "GET" "/me" Handlers.me

/-- A request for an exchange. -/
def Asks (request : Request) : Prop := request.path = "/auth/refresh" ∧ request.method = "POST"

/-- With these routes alone it is answered by the handler, and the length of the answer is stated. -/
theorem routes_answer (config : TokenConfig) (bodyLimit : Nat) :
    ∃ table : Table σ, routes config bodyLimit = .ok table ∧
      ∀ request world, Asks request → ∃ answer after,
        (table.serve id request).perform world = (.ok (Table.stateLength answer), after) ∧
          Answered config bodyLimit world.clock.seconds request answer := by
  let route : Route σ := ⟨.plain "/auth/refresh", .listed [("POST", handler config bodyLimit)]⟩
  let table : Table σ := ⟨[route, ⟨.plain "/me", .listed [("GET", Handlers.me)]⟩], none⟩
  have found : table.find? "/auth/refresh" = some route := rfl
  refine ⟨table, rfl, fun request world ⟨path, method⟩ => ?_⟩
  obtain ⟨answer, after, performed, answered⟩ := handler_answered config bodyLimit request world
  refine ⟨answer, after, ?_, answered⟩
  have target : table.target request = handler config bodyLimit := by
    unfold Table.target
    rw [path, method, found]
    rfl
  have completed : table.completion request answer = Table.stateLength answer := by
    unfold Table.completion
    rw [path, method, found]
    simp [Table.finish, route, Methods.handler?]
  have same : handler config bodyLimit (table.routed request) =
      (handler config bodyLimit request : Run σ Response) := rfl
  rw [Table.serve_perform, target, id, same, performed]
  exact Prod.ext (congrArg Except.ok completed) rfl

/-- What the answer to an exchange is, told by the request and the time. The token that is granted is
accepted at the same time, as long as this is not before 1970, which a token could not state. -/
structure Classified (config : TokenConfig) (bodyLimit : Nat) (now : Int) (request : Request)
    (answer : Response) : Prop where
  known : answer.status ∈ [200, 400, 401, 413]
  tooLong : answer.status = 413 ↔
    saysJson request.headers = true ∧ bodyLimit < request.body.length
  bad : answer.status = 400 ↔
    saysJson request.headers = false ∨
      (request.body.length ≤ bodyLimit ∧ ∃ fault, run (record shape) request.body = .error fault) ∨
      ∃ token, Presents bodyLimit request token ∧ IsBlank token
  refused : answer.status = 401 ↔ ∃ token, Presents bodyLimit request token ∧ ¬ IsBlank token ∧
    ∃ error, Token.validate config now token = .error error
  granted : answer.status = 200 ↔ ∃ token, Presents bodyLimit request token ∧ ¬ IsBlank token ∧
    ∃ claims, Token.validate config now token = .ok claims
  problem : answer.status = 400 ∨ answer.status = 413 →
    answer.headers.getAll "content-type" = [Utf8.encode "application/problem+json"] ∧
      ∃ kind message, answer = Table.stateLength (Problem.of kind message).response
  uniform : answer.status = 401 → answer = Table.stateLength Access.refusal
  renewed : ∀ token claims, Presents bodyLimit request token → ¬ IsBlank token →
    Token.validate config now token = .ok claims →
      ∃ fresh, run (record answerShape) answer.body = .ok fresh ∧
        (0 ≤ now → Token.validate config now fresh =
          .ok ⟨claims.userId, claims.email, claims.role, config.issuer, claims.userId,
            [config.audience], min (now + config.accessLifetime) Token.lastSecond, now, now⟩)

theorem Presents.unique {token other : String} (presents : Presents bodyLimit request token)
    (also : Presents bodyLimit request other) : token = other :=
  Except.ok.inj (presents.read.symm.trans also.read)

theorem Due.known (due : Due config bodyLimit now request status) : status ∈ [200, 400, 401, 413] := by
  cases due with
  | otherFormat other => decide
  | tooLong json long => decide
  | unread json fits unread => decide
  | blank presents blank => decide
  | refused presents something refused => decide
  | granted presents something accepted => decide

private theorem Answered.problem_stated {answer : Response}
    (answered : Answered config bodyLimit now request answer)
    (bad : answer.status = 400 ∨ answer.status = 413) :
    answer.headers.getAll "content-type" = [Utf8.encode "application/problem+json"] ∧
      ∃ kind message, answer = (Problem.of kind message).response := by
  cases answered with
  | problem message due own => exact ⟨Headers.getAll_set_self .., _, message, rfl⟩
  | refusal due =>
    rcases bad with bad | bad
    · cases bad
    · cases bad
  | grant presents something accepted =>
    rcases bad with bad | bad
    · cases bad
    · cases bad

private theorem Answered.refusal_stated {answer : Response}
    (answered : Answered config bodyLimit now request answer) (refused : answer.status = 401) :
    answer = Access.refusal := by
  cases answered with
  | problem message due own =>
    rcases own with rfl | rfl
    · cases refused
    · cases refused
  | refusal due => rfl
  | grant presents something accepted => cases refused

private theorem Answered.grant_stated {answer : Response} {token : String} {claims : Claims}
    (answered : Answered config bodyLimit now request answer)
    (presents : Presents bodyLimit request token) (something : ¬ IsBlank token)
    (accepted : Token.validate config now token = .ok claims) :
    answer =
      Refresh.grant (Token.issueAccess config now claims.userId claims.email claims.role) := by
  have granted := answered.due.unique (.granted presents something accepted)
  cases answered with
  | problem message due own =>
    rcases own with rfl | rfl
    · cases granted
    · cases granted
  | refusal due => cases granted
  | grant own _ also =>
    obtain rfl := presents.unique own
    obtain rfl := Except.ok.inj (accepted.symm.trans also)
    rfl

theorem Answered.classified {answer : Response}
    (answered : Answered config bodyLimit now request answer) :
    Classified config bodyLimit now request (Table.stateLength answer) := by
  have status : (Table.stateLength answer).status = answer.status := Table.state_length_status answer
  refine ⟨?_, ?_, ?_, ?_, ?_, fun bad => ?_, fun refused => ?_, ?_⟩
  · rw [status]
    exact answered.due.known
  · rw [status, answered.status_iff, due_too_long_iff]
  · rw [status, answered.status_iff, due_bad_iff]
  · rw [status, answered.status_iff, due_refused_iff]
  · rw [status, answered.status_iff, due_granted_iff]
  · rw [status] at bad
    obtain ⟨mediaType, kind, message, same⟩ := answered.problem_stated bad
    rw [Table.state_length_getAll (by decide)]
    exact ⟨mediaType, kind, message, congrArg Table.stateLength same⟩
  · rw [status] at refused
    exact congrArg Table.stateLength (answered.refusal_stated refused)
  · intro token claims presents something accepted
    refine ⟨Token.issueAccess config now claims.userId claims.email claims.role, ?_,
      fun since1970 => Token.renewed_accepted since1970 accepted⟩
    rw [Table.state_length_body, answered.grant_stated presents something accepted]
    exact sole_text_reads ..

/-- Exchanges are classified. With the two routes that have to do with tokens, under any limit, every
request for an exchange is answered, whatever its fields and its body are and whatever time it is: by 413,
400, 401 or 200, each of them exactly where the content type, the body and the judgement of the token in
it say so. -/
theorem exchange_classified (config : TokenConfig) (bodyLimit : Nat) :
    ∃ table : Table σ, routes config bodyLimit = .ok table ∧
      ∀ request world, Asks request → ∃ answer after,
        (table.serve id request).perform world = (.ok answer, after) ∧
          Classified config bodyLimit world.clock.seconds request answer := by
  obtain ⟨table, built, answers⟩ := routes_answer config bodyLimit
  refine ⟨table, built, fun request world asks => ?_⟩
  obtain ⟨answer, after, performed, answered⟩ := answers request world asks
  exact ⟨_, after, performed, answered.classified⟩

/-- A refresh token in the middle of its life, in a body that is as long as it may be. -/
theorem exchange_classified_granted :
    let config : TokenConfig := ⟨"issuer", "audience", "secret", 60, 3600⟩
    let token := Token.issueRefresh config 1700000000 "user" "u@example" "admin"
    let request : Request := ⟨"POST", "/auth/refresh",
      ⟨[("content-type", Utf8.encode "application/json")]⟩,
      Utf8.encode (objectText [("refreshToken", quote token)]), none, none, none⟩
    let world : World Unit := World.start 1_700_000_100_000_000_000 ()
    ∃ table, routes config request.body.length = .ok table ∧ ∃ answer after,
      (table.serve id request).perform world = (.ok answer, after) ∧ answer.status = 200 ∧
        ∃ fresh, run (record answerShape) answer.body = .ok fresh ∧
          Token.validate config 1700000100 fresh = .ok ⟨"user", "u@example", "admin",
            "issuer", "user", ["audience"], 1700000160, 1700000100, 1700000100⟩ := by
  intro config token request world
  obtain ⟨table, built, answers⟩ := exchange_classified config request.body.length
  obtain ⟨answer, after, performed, classified⟩ := answers request world ⟨rfl, rfl⟩
  have presents : Presents request.body.length request token :=
    ⟨by decide +kernel, Nat.le_refl _, sole_text_reads "RefreshRequest" "refreshToken" token⟩
  have something : ¬ IsBlank token := signed_not_blank config _
  have accepted : Token.validate config 1700000100 token =
      .ok ⟨"user", "u@example", "admin", "issuer", "user", ["audience"],
        1700003600, 1700000000, 1700000000⟩ :=
    (Token.validate_issued config "user" "u@example" "admin" 3600 (by decide) 1700000100).trans rfl
  obtain ⟨fresh, read, valid⟩ := classified.renewed token _ presents something accepted
  exact ⟨table, built, answer, after, performed,
    classified.granted.mpr ⟨token, presents, something, _, accepted⟩, fresh, read,
    valid (by decide)⟩

end Gatehouse.Refresh
