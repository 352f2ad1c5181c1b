import Gatehouse.Proofs.Access.Gate
import Gatehouse.Proofs.Service.Answered
import Gatehouse.Proofs.Service.Routes

/-! Who is told who the caller is. The handler that tells it runs on a request only if this asks for the
caller, on the one path and by the two methods for that, with a token that is accepted, and then it tells
what the token says. That it does not run on any other request shows in that nothing would be different
with another handler in its place. -/
namespace Gatehouse

open RateLimit Run

variable {σ : Type}

/-! ## What is told -/

/-- What an answer says about the caller. -/
structure Caller where
  userId : String
  email : String
  role : String

namespace Caller
open Json Json.Decoder

/-- The body of such an answer. -/
def shape : Shape Caller where
  name := "Caller"
  blank := ⟨"", "", ""⟩
  shortLists := false
  fields := [
    .required "userId" text fun v c => { c with userId := v },
    .required "email" text fun v c => { c with email := v },
    .required "role" text fun v c => { c with role := v }]

variable (caller : Caller)

private def entries : List (Entry Caller) := [
  .setting "userId" (quote caller.userId) (fun v c => { c with userId := v }) caller.userId,
  .setting "email" (quote caller.email) (fun v c => { c with email := v }) caller.email,
  .setting "role" (quote caller.role) (fun v c => { c with role := v }) caller.role]

private theorem entries_fit : ∀ entry ∈ entries caller, entry.Fits 1 shape.fields := by
  intro entry member
  simp only [entries, List.mem_cons, List.not_mem_nil, or_false] at member
  have string (value : String) : Reads 1 text (Utf8.encode (quote value)) value :=
    (text_reads "a string" value).deeper (by decide)
  rcases member with rfl | rfl | rfl
  · exact Entry.setting_fits rfl rfl (string _)
  · exact Entry.setting_fits rfl rfl (string _)
  · exact Entry.setting_fits rfl rfl (string _)

/-- Whatever characters are in it, what is told can be read. -/
theorem json_read :
    run (record shape) (Utf8.encode (objectText [("userId", quote caller.userId),
      ("email", quote caller.email), ("role", quote caller.role)])) = .ok caller := by
  have reads := whole_record_reads shape (entries_fit caller) rfl (by decide)
  exact document_reads reads (by decide)

end Caller

/-! ## Requests that are passed on -/

namespace Service

variable [CounterStore σ] {service : Service σ} {freshId : Bytes} {request : Request}
  {world after : World σ} {mark : Headers → Headers}

/-- A table that looks up and completes in the same way can be put in the place of that of a service. The
service is then the same, if what stands behind the limiters is. -/
theorem handle_congr {table : Router.Table σ}
    (routed : table.routed request = service.table.routed request)
    (completes : ∀ answer, table.completion request answer = service.table.completion request answer)
    (same : ∀ mark after, service.passage freshId request world = .passed mark after →
      ((service.withTable table).behind request
          (service.arriving freshId request)).perform after =
        (service.behind request (service.arriving freshId request)).perform after) :
    ((service.withTable table).handle freshId request).perform world =
      (service.handle freshId request).perform world := by
  have arrives : (service.withTable table).arriving freshId request =
      service.arriving freshId request := by
    unfold arriving withTable
    simp only [routed]
  have passage : (service.withTable table).passage freshId request world =
      service.passage freshId request world := by
    unfold Service.passage
    rw [arrives]
    rfl
  have counted : ((service.withTable table).counted freshId request).perform
      (service.tracking.entered request.path world) =
        (service.counted freshId request).perform (service.tracking.entered request.path world) := by
    refine (counted_passage (service.withTable table) freshId request world).trans ?_
    rw [passage, arrives, counted_passage, Passage.resume_congr same]
  have sent (answer : Response) : (service.withTable table).sent freshId request answer =
      service.sent freshId request answer := completes _
  have tracking : (service.withTable table).tracking = service.tracking := rfl
  rw [handle_perform, handle_perform, arrives, tracking, counted]
  simp only [sent]
  rfl

/-- A request that the limiters pass on gets the answer of what stands behind them. -/
theorem handle_passed {answer : Response} {last : World σ}
    (passed : service.passage freshId request world = .passed mark after)
    (answered : (service.behind request (service.arriving freshId request)).perform after =
      (.ok answer, last)) :
    ∃ final, (service.handle freshId request).perform world =
      (.ok (service.sent freshId request (service.hardened (service.arriving freshId request)
        (answer.mapHeaders mark))), final) := by
  obtain ⟨last, performed⟩ := service.handle_delivers freshId request world
  rw [passed] at performed
  simp only [Passage.resume, answered] at performed
  exact ⟨last, performed⟩

end Service

/-! ## Behind the limiters -/

namespace Service

/-- A request once the token in it has been accepted. -/
def recognised (request : Request) (claims : Claims) : Request :=
  { request with identity := some (.ofClaims claims) }

section Behind

variable {service : Service σ} {request arrived : Request} {before : List (Router.Route σ)}
  {told : Handler σ} {after : World σ} {claims : Claims}

theorem guarded_not_preflight (guarded : Access.Guarded .service arrived) :
    arrived.method ≠ "OPTIONS" := by
  intro preflight
  have asked := (Access.guarded_service_iff.mp guarded).2
  rw [preflight] at asked
  exact absurd asked (by decide)

/-- What else is done with the answer of a route. -/
def decorated (service : Service σ) (arrived : Request) (answer : Response) : Response :=
  answer.mapHeaders (service.rules.decorate arrived.headers)

/-- The handler of the caller's route runs on a request with an accepted token. -/
theorem behind_admits (beside : Beside before) (table : service.table = telling before told)
    (asks : request.AsksCaller) (guarded : Access.Guarded .service arrived)
    (authenticated : Access.Authenticated service.tokens after.clock.seconds arrived.headers claims) :
    (service.behind request arrived).perform after =
      let run := (told (recognised arrived claims)).perform
        (after.logged ⟨.debug, "Request authenticated", [("user_id", claims.userId)]⟩)
      (run.1.map (service.decorated arrived), run.2) := by
  unfold behind
  rw [table, telling_target_own beside asks,
    Cors.Rules.layer_perform _ _ _ (guarded_not_preflight guarded),
    Access.gate_admits guarded authenticated]
  rfl

/-- A request with none is answered in its place, whatever handler it has. -/
theorem behind_rejects (service : Service σ) {error : Access.AccessError}
    (guarded : Access.Guarded .service arrived)
    (failed : Access.authenticate service.tokens after.clock.seconds arrived.headers = .error error) :
    (service.behind request arrived).perform after =
      (.ok (service.decorated arrived error.response), Access.rejected true error after) := by
  unfold behind
  rw [Cors.Rules.layer_perform _ _ _ (guarded_not_preflight guarded),
    Access.gate_answers true guarded failed]
  rfl

/-- Where no credential is asked for, the answer is that of the route. -/
theorem behind_open (unguarded : ¬ Access.Guarded .service arrived)
    (other : arrived.method ≠ "OPTIONS") (world : World σ) :
    (service.behind request arrived).perform world =
      let run := (service.table.target request arrived).perform world
      (run.1.map (service.decorated arrived), run.2) := by
  unfold behind
  rw [Cors.Rules.layer_perform _ _ _ other, Access.gate_open unguarded]
  rfl

/-- With another handler for the caller nothing is different, except where it runs. -/
theorem behind_alike {other : Handler σ} (beside : Beside before)
    (table : service.table = telling before told)
    (guarded : request.AsksCaller → Access.Guarded .service arrived)
    (alike : request.AsksCaller → ∀ claims,
      Access.Authenticated service.tokens after.clock.seconds arrived.headers claims → ∀ world,
        (other (recognised arrived claims)).perform world =
          (told (recognised arrived claims)).perform world) :
    ((service.withTable (telling before other)).behind request arrived).perform
        after = (service.behind request arrived).perform after := by
  by_cases asks : request.AsksCaller
  · cases tried : Access.authenticate service.tokens after.clock.seconds arrived.headers with
    | ok claims =>
      have authenticated := Access.authenticate_ok_iff.mp tried
      have elsewhere : ((service.withTable (telling before other)).behind request arrived).perform after =
          _ := behind_admits beside rfl asks (guarded asks) authenticated
      rw [behind_admits beside table asks (guarded asks) authenticated, elsewhere,
        alike asks claims authenticated]
      rfl
    | error error =>
      rw [behind_rejects service (guarded asks) tried,
        behind_rejects (service.withTable (telling before other)) (guarded asks) tried]
      rfl
  · unfold behind
    rw [table, telling_target_other told other beside asks]
    rfl

/-- On the path of the caller other methods are refused, but for the one of foreign pages. -/
theorem behind_refuses (beside : Beside before) (table : service.table = telling before told)
    (own : request.path = "/me") (sameMethod : arrived.method = request.method)
    (refused : ¬ request.AsksCaller) :
    (service.behind request arrived).perform after =
      (.ok (if request.method = "OPTIONS" then service.rules.preflight arrived.headers
        else service.decorated arrived (.ofStatus 405)), after) := by
  have notAsked : ¬ (request.method = "GET" ∨ request.method = "HEAD") :=
    fun asked => refused ⟨own, asked⟩
  by_cases preflight : request.method = "OPTIONS"
  · unfold behind
    rw [if_pos preflight, Cors.Rules.layer_preflight _ _ _ (sameMethod.trans preflight)]
  · have unguarded : ¬ Access.Guarded .service arrived := by
      rw [Access.guarded_service_iff, sameMethod]
      exact fun guarded => notAsked guarded.2
    rw [if_neg preflight, behind_open unguarded (sameMethod ▸ preflight), table,
      telling_refused beside own notAsked]
    rfl

end Behind
/-! ## The whole service -/

section Sent

variable {service : Service σ} {freshId : Bytes} {request : Request} {before : List (Router.Route σ)}
  {claims : Claims}

theorem arriving_authenticated {config : TokenConfig} {now : Int} :
    Access.Authenticated config now (service.arriving freshId request).headers claims ↔
      Access.Authenticated config now request.headers claims := by
  have first : (service.arriving freshId request).headers.get? "authorization" =
      request.headers.get? "authorization" := Headers.get?_insertIfAbsent_other _ (by decide)
  unfold Access.Authenticated
  rw [first]

theorem arriving_preflight (service : Service σ) (freshId : Bytes) (request : Request) :
    service.rules.preflight (service.arriving freshId request).headers =
      service.rules.preflight request.headers := by
  have origin : (service.arriving freshId request).headers.get? "origin" =
      request.headers.get? "origin" := Headers.get?_insertIfAbsent_other _ (by decide)
  unfold Cors.Rules.preflight Cors.Rules.originField Cors.Rules.allowedOrigin
  rw [origin]

theorem hardened_body (service : Service σ) (request : Request) (answer : Response) :
    (service.hardened request answer).body = answer.body := by
  simp only [hardened, Response.mapHeaders, Stages.compressed_body]

variable {told : Handler σ} (table : service.table = telling before told)
include table

theorem guarded_iff_asks (freshId : Bytes) (request : Request) (beside : Beside before) :
    Access.Guarded .service (service.arriving freshId request) ↔ request.AsksCaller := by
  have routed : (service.arriving freshId request).route = some "/me" ↔ request.path = "/me" := by
    unfold arriving
    rw [table]
    exact telling_routed_iff beside
  rw [Access.guarded_service_iff, routed]
  rfl

theorem sent_body (freshId : Bytes) (request : Request) (answer : Response) :
    (service.sent freshId request answer).body =
      if request.method = "HEAD" ∨
        (request.method = "CONNECT" ∧ 200 ≤ answer.status ∧ answer.status < 300) then []
      else answer.body := by
  unfold sent
  rw [table]
  obtain ⟨allow, completed⟩ := telling_completes before told request
    (answer.mapHeaders (·.insertIfAbsent Stages.requestIdField
      ((request.headers.get? Stages.requestIdField).getD freshId)))
  rw [completed, Router.Table.finish_body]
  rfl

end Sent

section Passed

variable [CounterStore σ] {service : Service σ} {freshId : Bytes} {request : Request}
  {world after : World σ} {mark : Headers → Headers} {before : List (Router.Route σ)} {claims : Claims}
  (passed : service.passage freshId request world = .passed mark after)
  (beside : Beside before) (table : service.table = telling before Handlers.me)
include passed beside table

/-- The owner of an accepted token is told what its claims say. -/
theorem owner_told (asks : request.AsksCaller)
    (owns : Access.Authenticated service.tokens after.clock.seconds request.headers claims) :
    ∃ answer last, (service.handle freshId request).perform world = (.ok answer, last) ∧
      answer.status = 200 ∧
      (request.method = "GET" → Json.Decoder.run (Json.Decoder.record Caller.shape) answer.body =
        .ok ⟨claims.userId, claims.email, claims.role⟩) ∧
      (request.method = "HEAD" → answer.body = []) := by
  have behind := behind_admits beside table asks
    ((guarded_iff_asks table freshId request beside).mpr asks) (arriving_authenticated.mpr owns)
  obtain ⟨final, performed⟩ := handle_passed passed behind
  refine ⟨_, final, performed, ?_, fun gets => ?_, fun heads => ?_⟩
  · rw [sent_status, hardened_status]
    rfl
  · rw [sent_body table, gets, if_neg (by simp), hardened_body]
    exact Caller.json_read ⟨claims.userId, claims.email, claims.role⟩
  · rw [sent_body table, heads, if_pos (.inl rfl)]

/-- Everyone else who asks is rejected. -/
theorem others_rejected (asks : request.AsksCaller)
    (stranger : ∀ claims,
      ¬ Access.Authenticated service.tokens after.clock.seconds request.headers claims) :
    ∃ answer last, (service.handle freshId request).perform world = (.ok answer, last) ∧
      answer.status = 401 := by
  cases tried : Access.authenticate service.tokens after.clock.seconds
      (service.arriving freshId request).headers with
  | ok claims =>
    exact absurd (arriving_authenticated.mp (Access.authenticate_ok_iff.mp tried)) (stranger claims)
  | error error =>
    have behind : (service.behind request (service.arriving freshId request)).perform after = _ :=
      behind_rejects service ((guarded_iff_asks table freshId request beside).mpr asks) tried
    obtain ⟨final, performed⟩ := handle_passed passed behind
    refine ⟨_, final, performed, ?_⟩
    rw [sent_status, hardened_status]
    exact Access.rejection_status (Access.authenticate_error tried).2

/-- Other methods on the path of the caller get answers without a body. -/
theorem methods_refused (own : request.path = "/me") (refused : ¬ request.AsksCaller) :
    ∃ answer last, (service.handle freshId request).perform world = (.ok answer, last) ∧
      answer.body = [] ∧
      if request.method = "OPTIONS" then
        answer = service.sent freshId request (service.hardened (service.arriving freshId request)
          ((service.rules.preflight request.headers).mapHeaders mark))
      else answer.status = 405 := by
  obtain ⟨final, performed⟩ := handle_passed passed (behind_refuses beside table own rfl refused)
  rw [arriving_preflight] at performed
  refine ⟨_, final, performed, ?_, ?_⟩
  · have empty : ((if request.method = "OPTIONS" then service.rules.preflight request.headers
        else service.decorated (service.arriving freshId request) (.ofStatus 405)).mapHeaders
          mark).body = [] := by
      split
      · rfl
      · rfl
    rw [sent_body table, hardened_body, empty, ite_self]
  · by_cases preflight : request.method = "OPTIONS"
    · simp only [preflight, if_true]
    · simp only [preflight, if_false, sent_status, hardened_status]
      rfl

end Passed

theorem build_telling [Dependencies σ] {server : ServerConfig} {tokens : TokenConfig}
    {service : Service σ} (built : build server tokens = .ok service) :
    service.server = server ∧ service.tokens = tokens ∧
      ∃ before, Beside before ∧ service.table = telling before Handlers.me ∧
        ∀ other : Handler σ, routesTelling other server tokens = .ok (telling before other) := by
  obtain ⟨table, routed, rest⟩ := bind_ok_iff.mp built
  obtain ⟨rules, ruled, rest⟩ := bind_ok_iff.mp rest
  obtain ⟨_, checked, same⟩ := bind_ok_iff.mp rest
  cases same
  have telling_me := map_error_ok_iff.mp routed
  rw [routes_telling_me] at telling_me
  obtain ⟨before, beside, others⟩ := routes_telling_cases telling_me
  exact ⟨rfl, rfl, before, beside, Except.ok.inj (telling_me.symm.trans (others _)), others⟩

variable [CounterStore σ] [Dependencies σ] {server : ServerConfig} {tokens : TokenConfig}
  {service : Service σ} {freshId : Bytes} {request : Request} {world : World σ}

/-- A request is dealt with in the same way if another handler stands in the place of the one that says
who the caller is. -/
def SameWith (service : Service σ) (other : Handler σ) (freshId : Bytes) (request : Request)
    (world : World σ) : Prop :=
  ∃ table, routesTelling other service.server service.tokens = .ok table ∧
    ((service.withTable table).handle freshId request).perform world =
      (service.handle freshId request).perform world

/-- Another handler makes a difference only if the request asks for the caller, a token in it is accepted,
and then the handler itself does something else. -/
theorem same_with_of (built : build server tokens = .ok service) {other : Handler σ}
    (alike : ∀ mark after, service.passage freshId request world = .passed mark after →
      request.AsksCaller → ∀ claims,
        Access.Authenticated tokens after.clock.seconds request.headers claims → ∀ world,
          (other (recognised (service.arriving freshId request) claims)).perform world =
            (Handlers.me (recognised (service.arriving freshId request) claims)).perform world) :
    service.SameWith other freshId request world := by
  obtain ⟨rfl, rfl, before, beside, table, others⟩ := build_telling built
  refine ⟨_, others other, handle_congr ?_ (fun answer => ?_) fun mark after passed => ?_⟩
  · rw [table]
    exact telling_routed beside request
  · rw [table]
    exact telling_completion beside request answer
  · exact behind_alike beside table (guarded_iff_asks table _ _ beside).mpr fun asks claims authenticated =>
      alike mark after passed asks claims (arriving_authenticated.mp authenticated)

/-- Only the owner of a token is told who the caller is. Where the limiters pass a request on, the handler
that tells it makes no difference, unless the request asks for the caller and its first credential
carries a token that is accepted then; and in that case the answer says what the claims of the token say.
Everyone else who asks is rejected, and other methods on that path get answers without a body. What the
handler would do without an identity makes no difference to any request at all. -/
theorem caller_told_to_owner (built : build server tokens = .ok service) (freshId : Bytes)
    (request : Request) (world : World σ) :
    (∀ other : Handler σ, service.SameWith
      (fun seen => if seen.identity.isSome then Handlers.me seen else other seen)
      freshId request world) ∧
    ∀ mark after, service.passage freshId request world = .passed mark after →
      let Owns (claims : Claims) : Prop :=
        Access.Authenticated tokens after.clock.seconds request.headers claims
      ∃ answer last, (service.handle freshId request).perform world = (.ok answer, last) ∧
        (¬ (request.AsksCaller ∧ ∃ claims, Owns claims) →
          ∀ other : Handler σ, service.SameWith other freshId request world) ∧
        (request.AsksCaller → ∀ claims, Owns claims → answer.status = 200 ∧
          (request.method = "GET" → Json.Decoder.run (Json.Decoder.record Caller.shape) answer.body =
            .ok ⟨claims.userId, claims.email, claims.role⟩) ∧
          (request.method = "HEAD" → answer.body = [])) ∧
        (request.AsksCaller → (∀ claims, ¬ Owns claims) → answer.status = 401) ∧
        (request.path = "/me" → ¬ request.AsksCaller → answer.body = [] ∧
          if request.method = "OPTIONS" then
            answer = service.sent freshId request (service.hardened (service.arriving freshId request)
              ((service.rules.preflight request.headers).mapHeaders mark))
          else answer.status = 405) := by
  obtain ⟨rfl, rfl, before, beside, table, _⟩ := build_telling built
  refine ⟨fun other => same_with_of built fun _ _ _ _ _ _ _ => rfl, ?_⟩
  intro mark after passed Owns
  obtain ⟨answer, last, performed⟩ : ∃ answer last,
      (service.handle freshId request).perform world = (.ok answer, last) := by
    rcases handle_outcomes built freshId request world with
      ⟨_, _, _, _, _, performed⟩ | ⟨_, _, _, performed⟩
    · exact ⟨_, _, performed⟩
    · exact ⟨_, _, performed⟩
  have of_answer {holds : Response → Prop} (answered : ∃ answer last,
      (service.handle freshId request).perform world = (.ok answer, last) ∧ holds answer) :
      holds answer := by
    obtain ⟨other, _, again, fits⟩ := answered
    rw [performed] at again
    cases again
    exact fits
  refine ⟨answer, last, performed, fun nobody other => ?_, fun asks claims owns => ?_,
    fun asks stranger => ?_, fun own refused => ?_⟩
  · refine same_with_of built fun mark last again asks claims owns => ?_
    rw [passed] at again
    cases again
    exact absurd ⟨asks, claims, owns⟩ nobody
  · exact of_answer (owner_told passed beside table asks owns)
  · exact of_answer (others_rejected passed beside table asks stranger)
  · exact of_answer (methods_refused passed beside table own refused)

/-- A token in the middle of its life, and a service without limiters. -/
theorem caller_told_to_owner_issued :
    let tokens : TokenConfig := ⟨"issuer", "audience", "secret", 60, 60⟩
    let token := Token.issue tokens (1700000000 : Nat) "user" "u@example" "admin" 60
    let request : Request := ⟨"GET", "/me", ⟨[("authorization", Utf8.encode ("Bearer " ++ token))]⟩,
      [], none, none, none⟩
    let world : World PreparedStore := World.start 1_700_000_030_000_000_000 (.ofReplies [])
    ∃ service : Service PreparedStore,
      build ServerConfig.standard.withoutLimiters tokens = .ok service ∧
      ∃ answer last, (service.handle [] request).perform world = (.ok answer, last) ∧
        answer.status = 200 ∧
        Json.Decoder.run (Json.Decoder.record Caller.shape) answer.body =
          .ok ⟨"user", "u@example", "admin"⟩ := by
  intro tokens token request world
  obtain ⟨service, built, _⟩ := built_with ServerConfig.standard.withoutLimiters tokens
    (fun _ : Service PreparedStore => True) (by decide +kernel) (fun _ _ => trivial)
  have passed : service.passage [] request world = .passed id (service.entered request world) := by
    unfold Service.passage
    rw [(build_telling built).1, limiters_disabled]
    rfl
  have accepted : Token.validate tokens (service.entered request world).clock.seconds token =
      .ok ⟨"user", "u@example", "admin", "issuer", "user", ["audience"],
        1700000060, 1700000000, 1700000000⟩ := by
    rw [entered_clock]
    exact (Token.validate_issued tokens "user" "u@example" "admin" 60 (by decide) 1700000030).trans rfl
  have owns : Access.Authenticated tokens (service.entered request world).clock.seconds
      request.headers _ := ⟨_, token, rfl, Access.carries_framed _ _ _, accepted⟩
  obtain ⟨answer, last, performed, _, told, _⟩ :=
    (caller_told_to_owner built [] request world).2 id _ passed
  obtain ⟨status, body, _⟩ := told ⟨rfl, .inl rfl⟩ _ owns
  exact ⟨service, built, answer, last, performed, status, body rfl⟩

end Service
end Gatehouse
