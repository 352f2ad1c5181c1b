import Gatehouse.Proofs.Service.Caller
import Gatehouse.Proofs.Service.Exchange

/-! What the status of an answer depends on behind the limiters. Two kinds of request stake it on a token:
one for who the caller is on the token of its first credential, and one for an exchange on the token that
is to be exchanged. They are answered by 200 or by 401, as the token is judged in the second in which they
get past the limiters. Every other request has the same status at all times. -/
namespace Gatehouse

open RateLimit Run Router

variable {σ : Type}

/-- What changes an answer but not its status keeps what is told of the status. -/
theorem StatusAt.completed {activity whole : Run σ Response} {complete : Response → Response}
    {status : Int → Nat} (told : StatusAt activity status)
    (performed : ∀ world, whole.perform world =
      ((activity.perform world).1.map complete, (activity.perform world).2))
    (kept : ∀ answer, (complete answer).status = answer.status) : StatusAt whole status := by
  intro world answer after answered
  rw [performed] at answered
  rcases given : activity.perform world with ⟨(_ | own), final⟩
  · rw [given] at answered
    cases answered
  · rw [given] at answered
    cases answered
    exact (kept own).trans (told world own final given)

namespace Service

/-! ## The route of exchanges -/

/-- A route with the handler of exchanges, if it is for their path and the method is theirs. Whatever else
it answers has a status that does not depend on the time. -/
structure Exchanging (exchange : Handler σ) (route : Route σ) : Prop where
  own : route.template.text = "/auth/refresh" → route.methods.handler? "POST" = some exchange
  others : ∀ method handler, route.methods.handler? method = some handler →
    (route.template.text = "/auth/refresh" ∧ method = "POST") ∨ Steady handler

/-- When exchanges are added, all routes come to be so. -/
theorem add_exchanging {table larger : Table σ} {exchange : Handler σ}
    (added : table.add "POST" "/auth/refresh" exchange = .ok larger) (all : table.All Steady) :
    ∀ route ∈ larger.routes, Exchanging exchange route := by
  have posted {template : Template} (handlers : List (String × Handler σ))
      (text : template.text = "/auth/refresh") (absent : handlers.any (·.1 == "POST") = false)
      (steady : (Methods.listed handlers).All Steady) :
      Exchanging exchange ⟨template, .listed (handlers ++ [("POST", exchange)])⟩ := by
    refine ⟨fun _ => Methods.handler_append_self absent, fun method handler found => ?_⟩
    by_cases posts : method = "POST"
    · exact .inl ⟨text, posts⟩
    · rw [Methods.handler_append posts (by decide)] at found
      exact .inr (Methods.handler_all steady found)
  refine (Table.add_each added ?_ ?_ ?_).1
  · intro route there elsewhere
    exact ⟨fun own => absurd own elsewhere,
      fun method handler found => .inr (Methods.handler_all (all.routes route there) found)⟩
  · intro route there longer own extended
    obtain ⟨handlers, methods, absent, rfl⟩ := Table.extend_cases extended
    have steady := all.routes route there
    rw [methods] at steady
    exact posted handlers own absent steady
  · intro template read
    refine posted [] (Template.text_of_checked read) rfl ?_
    intro entry member
    cases member

section Built

variable [Dependencies σ] {server : ServerConfig} {tokens : TokenConfig} {service : Service σ}

theorem routes_exchanging {table : Table σ} (built : routes server tokens = .ok table) :
    (∀ route ∈ table.routes, Exchanging (Refresh.handler tokens server.maxRequestSize) route) ∧
      ∃ route ∈ table.routes, route.template.text = "/auth/refresh" := by
  rw [routes_telling_me] at built
  obtain ⟨opened, first, built⟩ := bind_ok_iff.mp built
  obtain ⟨larger, me, same⟩ := bind_ok_iff.mp built
  cases same
  have unanswered := Regular.unanswered me (open_routes_regular first)
  unfold openRoutes at first
  obtain ⟨second, status, first⟩ := bind_ok_iff.mp first
  obtain ⟨third, health, first⟩ := bind_ok_iff.mp first
  have all : third.All Steady :=
    Table.add_all health (Table.add_all status Table.empty_all Handlers.status_prompt.steady)
      health_steady
  have closed {before : Table σ} (steady : before.All Steady) (refresh : before.add "POST"
      "/auth/refresh" (Refresh.handler tokens server.maxRequestSize) = .ok opened) :
      (∀ route ∈ larger.routes, Exchanging (Refresh.handler tokens server.maxRequestSize) route) ∧
        ∃ route ∈ larger.routes, route.template.text = "/auth/refresh" := by
    have exchanging := add_exchanging refresh steady
    obtain ⟨route, there, text⟩ := Table.add_there refresh
    constructor
    · refine (Table.add_each me (fun route there _ => exchanging route there) ?_ ?_).1
      · intro route there longer own _
        exact absurd own (unanswered route there)
      · intro template read
        have other : template.text ≠ "/auth/refresh" := by
          rw [Template.text_of_checked read]
          decide
        refine ⟨fun own => absurd own other, fun method handler found => .inr ?_⟩
        have steady : (Methods.listed [("GET", (Handlers.me : Handler σ))]).All Steady := by
          intro entry member
          rw [List.mem_singleton.mp member]
          exact Handlers.me_prompt.steady
        exact Methods.handler_all steady found
    · have other : route.template.text ≠ "/me" := by
        rw [text]
        decide
      exact ⟨route, Table.add_kept me route there other, text⟩
  split at first
  · obtain ⟨fourth, metrics, refresh⟩ := bind_ok_iff.mp first
    exact closed (Table.add_all metrics all Handlers.metrics_prompt.steady) refresh
  · exact closed all first

/-- The table of a service that has been built is made of such routes. -/
theorem build_exchanging (built : build server tokens = .ok service) :
    (∀ route ∈ service.table.routes,
      Exchanging (Refresh.handler tokens server.maxRequestSize) route) ∧
      (∃ route ∈ service.table.routes, route.template.text = "/auth/refresh") ∧
      (∀ route ∈ service.table.routes,
        Template.ofChecked route.template.text = .ok route.template) ∧
      service.table.fallback = some Handlers.notFound := by
  obtain ⟨_, _, before, beside, table, routed⟩ := build_telling built
  obtain ⟨exchanging, there⟩ := routes_exchanging (routes_telling_me.trans (routed Handlers.me))
  rw [table]
  exact ⟨exchanging, there, telling_read beside Handlers.me, rfl⟩

/-- A request for an exchange gets to its handler. -/
theorem target_exchange (built : build server tokens = .ok service) {request : Request}
    (asks : Refresh.Asks request) :
    service.table.target request = Refresh.handler tokens server.maxRequestSize := by
  obtain ⟨exchanging, ⟨route, there, text⟩, read, _⟩ := build_exchanging built
  have plain : route.template = .plain "/auth/refresh" := by
    have own := read route there
    rw [text] at own
    exact (Except.ok.inj own).symm
  obtain ⟨found, member, looked_up, own⟩ :=
    Table.find_there (by decide) (by decide) there plain read
  unfold Table.target
  rw [asks.1, asks.2, looked_up]
  simp only [(exchanging found member).own own, Option.getD_some]

/-- Any other request gets to a handler that does not look at the time. -/
theorem target_steady (built : build server tokens = .ok service) {request : Request}
    (other : ¬ Refresh.Asks request) : Steady (service.table.target request) := by
  obtain ⟨exchanging, _, read, fallback⟩ := build_exchanging built
  unfold Table.target
  cases looked_up : service.table.find? request.path with
  | none =>
    rw [fallback]
    exact Handlers.not_found_prompt.steady
  | some route =>
    obtain ⟨member, accepts⟩ := Table.find_accepts looked_up
    simp only []
    cases answers : route.methods.handler? request.method with
    | none => exact Table.method_not_allowed_prompt.steady
    | some handler =>
      rcases (exchanging route member).others request.method handler answers with own | steady
      · obtain ⟨text, posts⟩ := own
        -- a route with this text is for this path only, so the request asks for an exchange
        have plain : route.template = .plain "/auth/refresh" := by
          have same := read route member
          rw [text] at same
          exact (Except.ok.inj same).symm
        rw [plain] at accepts
        exact absurd ⟨(Template.plain_accepts_iff.mp accepts).symm, posts⟩ other
      · exact steady

end Built

/-! ## What is at stake -/

/-- The status of the answer to a request depends on a token: that of the first credential, or that which
is to be exchanged. -/
inductive AtStake (service : Service σ) (request : Request) : String → Prop
  | credential {value : Bytes} {token : String} (asks : request.AsksCaller)
      (first : request.headers.get? "authorization" = some value)
      (carries : Access.Carries value token) : AtStake service request token
  | exchange {token : String} (asks : Refresh.Asks request)
      (presents : Refresh.Presents service.server.maxRequestSize request token)
      (something : ¬ Refresh.IsBlank token) : AtStake service request token

/-- What a request has at stake is accepted at some time. -/
def Accepts (service : Service σ) (request : Request) (now : Int) : Prop :=
  ∀ token, service.AtStake request token →
    ∃ claims, Token.validate service.tokens now token = .ok claims

section Stake

variable {service : Service σ} {request : Request} {token other : String}

theorem asks_apart (caller : request.AsksCaller) : ¬ Refresh.Asks request := by
  intro exchange
  have same := caller.1.symm.trans exchange.1
  exact absurd same (by decide)

/-- There is one token at most. -/
theorem AtStake.unique (stake : service.AtStake request token)
    (also : service.AtStake request other) : token = other := by
  cases stake with
  | credential asks first carries =>
    cases also with
    | credential _ again brings =>
      rw [first] at again
      cases again
      have read := Access.bearer_token_iff.mpr ⟨_, first, carries⟩
      exact Except.ok.inj (read.symm.trans (Access.bearer_token_iff.mpr ⟨_, first, brings⟩))
    | exchange exchanges _ _ => exact absurd exchanges (asks_apart asks)
  | exchange asks presents something =>
    cases also with
    | credential caller _ _ => exact absurd asks (asks_apart caller)
    | exchange _ brings _ => exact presents.unique brings

theorem accepts_iff (stake : service.AtStake request token) {now : Int} :
    service.Accepts request now ↔
      ∃ claims, Token.validate service.tokens now token = .ok claims := by
  constructor
  · intro accepts
    exact accepts token stake
  · intro accepted other also
    rw [also.unique stake]
    exact accepted

theorem accepts_of_none (nothing : ∀ token, ¬ service.AtStake request token) (now : Int) :
    service.Accepts request now := by
  intro token stake
  exact absurd stake (nothing token)

end Stake

/-! ## Behind the limiters -/

section Behind

variable [Dependencies σ] {server : ServerConfig} {tokens : TokenConfig} {service : Service σ}
  {request : Request}

/-- Who asks for the caller gets 200 with an accepted token, and 401 without. -/
theorem caller_status (built : build server tokens = .ok service) (freshId : Bytes)
    (asks : request.AsksCaller) {world after : World σ} {answer : Response}
    (performed : (service.behind request (service.arriving freshId request)).perform world =
      (.ok answer, after)) :
    ((∃ claims, Access.Authenticated tokens world.clock.seconds request.headers claims) ∧
        answer.status = 200) ∨
      ((∀ claims, ¬ Access.Authenticated tokens world.clock.seconds request.headers claims) ∧
        answer.status = 401) := by
  obtain ⟨_, rfl, before, beside, table, _⟩ := build_telling built
  have guarded := (guarded_iff_asks table freshId request beside).mpr asks
  cases tried : Access.authenticate service.tokens world.clock.seconds
      (service.arriving freshId request).headers with
  | ok claims =>
    have authenticated := Access.authenticate_ok_iff.mp tried
    rw [behind_admits beside table asks guarded authenticated] at performed
    cases performed
    exact .inl ⟨⟨claims, arriving_authenticated.mp authenticated⟩, rfl⟩
  | error error =>
    rw [behind_rejects service guarded tried] at performed
    cases performed
    refine .inr ⟨fun claims authenticated => ?_,
      Access.rejection_status (Access.authenticate_error tried).2⟩
    rw [Access.authenticate_ok_iff.mpr (arriving_authenticated.mpr authenticated)] at tried
    cases tried

/-- An exchange gets the status that is due. -/
theorem exchange_status (built : build server tokens = .ok service) (freshId : Bytes)
    (asks : Refresh.Asks request) {world after : World σ} {answer : Response}
    (performed : (service.behind request (service.arriving freshId request)).perform world =
      (.ok answer, after)) :
    Refresh.Due tokens server.maxRequestSize world.clock.seconds request answer.status := by
  obtain ⟨_, _, before, beside, table, _⟩ := build_telling built
  have unguarded : ¬ Access.Guarded .service (service.arriving freshId request) :=
    fun guarded => asks_apart ((guarded_iff_asks table freshId request beside).mp guarded) asks
  have other : (service.arriving freshId request).method ≠ "OPTIONS" := by
    have posts : (service.arriving freshId request).method = "POST" := asks.2
    rw [posts]
    decide
  obtain ⟨own, final, answered, due⟩ := Refresh.handler_answered tokens server.maxRequestSize
    (service.arriving freshId request) world
  rw [behind_open unguarded other, target_exchange built asks, answered] at performed
  cases performed
  have mediaType : (service.arriving freshId request).headers.get? "content-type" =
      request.headers.get? "content-type" := Headers.get?_insertIfAbsent_other _ (by decide)
  refine due.due.of_same ?_ rfl
  unfold Refresh.saysJson
  rw [mediaType]

/-- Every other request has one status. -/
theorem other_status (built : build server tokens = .ok service) (freshId : Bytes)
    (noCaller : ¬ request.AsksCaller) (noExchange : ¬ Refresh.Asks request) :
    ∃ status, StatusAt (service.behind request (service.arriving freshId request))
      fun _ => status := by
  obtain ⟨_, _, before, beside, table, _⟩ := build_telling built
  have unguarded : ¬ Access.Guarded .service (service.arriving freshId request) :=
    fun guarded => noCaller ((guarded_iff_asks table freshId request beside).mp guarded)
  by_cases preflight : (service.arriving freshId request).method = "OPTIONS"
  · refine ⟨200, fun world answer after performed => ?_⟩
    unfold behind at performed
    rw [Cors.Rules.layer_preflight _ _ _ preflight] at performed
    cases performed
    rfl
  · obtain ⟨status, told⟩ := target_steady built noExchange (service.arriving freshId request)
    exact ⟨status, told.completed (behind_open unguarded preflight) fun _ => rfl⟩

/-- With a token at stake the answer is 200 if the token is accepted when the request gets here, and 401 if
not. -/
theorem staked_status (built : build server tokens = .ok service) (freshId : Bytes) {token : String}
    (stake : service.AtStake request token) {world after : World σ} {answer : Response}
    (performed : (service.behind request (service.arriving freshId request)).perform world =
      (.ok answer, after)) :
    (service.Accepts request world.clock.seconds ∧ answer.status = 200) ∨
      (¬ service.Accepts request world.clock.seconds ∧ answer.status = 401) := by
  obtain ⟨rfl, rfl, _⟩ := build_telling built
  rw [accepts_iff stake]
  cases stake with
  | credential asks first carries =>
    rcases caller_status built freshId asks performed with ⟨owner, status⟩ | ⟨stranger, status⟩
    · obtain ⟨claims, value, own, again, brings, accepted⟩ := owner
      have also : service.AtStake request own := .credential asks again brings
      have same : own = token := also.unique (.credential asks first carries)
      exact .inl ⟨⟨claims, same ▸ accepted⟩, status⟩
    · refine .inr ⟨?_, status⟩
      rintro ⟨claims, accepted⟩
      exact stranger claims ⟨_, token, first, carries, accepted⟩
  | exchange asks presents something =>
    have due := exchange_status built freshId asks performed
    cases valid : Token.validate service.tokens world.clock.seconds token with
    | ok claims => exact .inl ⟨⟨claims, rfl⟩, due.unique (.granted presents something valid)⟩
    | error error =>
      refine .inr ⟨?_, due.unique (.refused presents something valid)⟩
      rintro ⟨claims, accepted⟩
      cases accepted

/-- Without one there is one status. -/
theorem unstaked_status (built : build server tokens = .ok service) (freshId : Bytes)
    (nothing : ∀ token, ¬ service.AtStake request token) :
    ∃ status, StatusAt (service.behind request (service.arriving freshId request))
      fun _ => status := by
  obtain ⟨rfl, rfl, _⟩ := build_telling built
  by_cases caller : request.AsksCaller
  · refine ⟨401, fun world answer after performed => ?_⟩
    rcases caller_status built freshId caller performed with ⟨owner, _⟩ | ⟨_, status⟩
    · obtain ⟨claims, value, token, first, carries, _⟩ := owner
      exact absurd (.credential caller first carries) (nothing token)
    · exact status
  by_cases exchange : Refresh.Asks request
  · refine ⟨_, fun world answer after performed =>
      (exchange_status built freshId exchange performed).without_token fun token presents => ?_⟩
    exact Classical.byContradiction fun something =>
      nothing token (.exchange exchange presents something)
  exact other_status built freshId caller exchange

/-- Behind the limiters the status follows from the second in which a request gets there, and two seconds
give the same status exactly if what is at stake is judged alike in both. -/
theorem behind_status (built : build server tokens = .ok service) (freshId : Bytes)
    (request : Request) :
    ∃ status : Int → Nat,
      StatusAt (service.behind request (service.arriving freshId request)) status ∧
      ∀ now later, status now = status later ↔
        (service.Accepts request now ↔ service.Accepts request later) := by
  by_cases staked : ∃ token, service.AtStake request token
  · classical
    obtain ⟨token, stake⟩ := staked
    let status (now : Int) : Nat := if service.Accepts request now then 200 else 401
    refine ⟨status, fun world answer after performed => ?_, fun now later => ?_⟩
    · rcases staked_status built freshId stake performed with ⟨accepted, own⟩ | ⟨refused, own⟩
      · exact own.trans (if_pos accepted).symm
      · exact own.trans (if_neg refused).symm
    · by_cases first : service.Accepts request now
      · by_cases second : service.Accepts request later
        · simp [status, first, second]
        · simp [status, first, second]
      · by_cases second : service.Accepts request later
        · simp [status, first, second]
        · simp [status, first, second]
  · have nothing := not_exists.mp staked
    obtain ⟨status, told⟩ := unstaked_status built freshId nothing
    exact ⟨fun _ => status, told, fun now later => iff_of_true rfl
      (iff_of_true (accepts_of_none nothing now) (accepts_of_none nothing later))⟩

end Behind
end Service
end Gatehouse
