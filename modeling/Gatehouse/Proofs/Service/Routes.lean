import Gatehouse.Proofs.Router.Literal
import Gatehouse.Proofs.Service.Layers

/-! The routes of the service. Those of the caller and of the health report have paths of their own, whatever
path the metrics have. The one that says who the caller is stands last, and no other route depends on its
handler, so another handler can be put in its place. -/
namespace Gatehouse

variable {σ : Type}

/-- A request for who the caller is. -/
def Request.AsksCaller (request : Request) : Prop :=
  request.path = "/me" ∧ (request.method = "GET" ∨ request.method = "HEAD")

/-- A request for the health report. -/
def Request.AsksHealth (request : Request) : Prop :=
  request.path = "/health" ∧ request.method = "GET"

namespace Service

open Router

/-- A service with other routes. -/
def withTable (service : Service σ) (table : Table σ) : Service σ := { service with table }

/-! ## Regular routes -/

/-- A route with the template of its text. If it is for the path of the caller, it answers `GET`. -/
def Regular (route : Route σ) : Prop :=
  Template.ofChecked route.template.text = .ok route.template ∧
    (route.template.text = "/me" →
      ∃ handlers, route.methods = .listed handlers ∧ handlers.any (·.1 == "GET") = true)

theorem add_regular {table larger : Table σ} {method path : String} {handler : Handler σ}
    (added : table.add method path handler = .ok larger) (gets : path = "/me" → method = "GET")
    (regular : ∀ route ∈ table.routes, Regular route) : ∀ route ∈ larger.routes, Regular route := by
  refine (Table.add_each added (fun route there _ => regular route there) ?_ ?_).1
  · intro route there larger _ extended
    obtain ⟨read, answers⟩ := regular route there
    obtain ⟨handlers, methods, _, rfl⟩ := Table.extend_cases extended
    refine ⟨read, fun own => ⟨_, rfl, ?_⟩⟩
    obtain ⟨listed, same, there⟩ := answers own
    rw [methods] at same
    cases same
    rw [List.any_append, there]
    rfl
  · intro template read
    have text : template.text = path := Template.text_of_checked read
    refine ⟨by rw [text]; exact read, fun own => ⟨_, rfl, ?_⟩⟩
    rw [gets (text.symm.trans own)]
    rfl

/-- Where routes are regular, `GET` can only be added for the path of the caller if that has no route. -/
theorem Regular.unanswered {table larger : Table σ} {handler : Handler σ}
    (added : table.add "GET" "/me" handler = .ok larger)
    (regular : ∀ route ∈ table.routes, Regular route) :
    ∀ route ∈ table.routes, route.template.text ≠ "/me" := by
  intro route member own
  obtain ⟨listed, methods, there⟩ := (regular route member).2 own
  exact Table.add_unanswered added member methods there own

/-! ## Building -/

section Building

variable [Dependencies σ] {server : ServerConfig} {tokens : TokenConfig}

/-- The routes before that of the caller. -/
def openRoutes (server : ServerConfig) (tokens : TokenConfig) : Except RouteDefect (Table σ) := do
  let table ← Table.empty.add "GET" "/status" Handlers.status
  let table ← table.add "GET" "/health" Handlers.health
  let table ← if server.metrics.enabled then
      table.add "GET" server.metrics.path Handlers.metrics
    else pure table
  table.add "POST" "/auth/refresh" (Refresh.handler tokens server.maxRequestSize)

/-- The routes with another handler in the place of the one that says who the caller is. -/
def routesTelling (told : Handler σ) (server : ServerConfig) (tokens : TokenConfig) :
    Except RouteDefect (Table σ) := do
  let table ← openRoutes server tokens
  let table ← table.add "GET" "/me" told
  return { table with fallback := some Handlers.notFound }

theorem routes_telling_me :
    (routes server tokens : Except RouteDefect (Table σ)) = routesTelling Handlers.me server tokens := by
  unfold routes routesTelling openRoutes
  cases server.metrics.enabled with
  | false => simp only [bind_assoc, Bool.false_eq_true, if_false]
  | true => simp only [bind_assoc, if_true]

theorem open_routes_regular {table : Table σ} (built : openRoutes server tokens = .ok table) :
    ∀ route ∈ table.routes, Regular route := by
  unfold openRoutes at built
  obtain ⟨first, status, built⟩ := bind_ok_iff.mp built
  obtain ⟨second, health, built⟩ := bind_ok_iff.mp built
  have none_yet : ∀ route ∈ (Table.empty : Table σ).routes, Regular route := by
    intro route member
    cases member
  have regular : ∀ route ∈ second.routes, Regular route :=
    add_regular health (by decide) (add_regular status (by decide) none_yet)
  have closed {before : Table σ} (known : ∀ route ∈ before.routes, Regular route)
      (refresh : before.add "POST" "/auth/refresh" (Refresh.handler tokens server.maxRequestSize) =
        .ok table) : ∀ route ∈ table.routes, Regular route :=
    add_regular refresh (by decide) known
  split at built
  · obtain ⟨third, metrics, refresh⟩ := bind_ok_iff.mp built
    exact closed (add_regular metrics (fun _ => rfl) regular) refresh
  · exact closed regular built

/-- The routes of the service, told by those before that of the caller. -/
def telling (before : List (Route σ)) (told : Handler σ) : Table σ :=
  ⟨before ++ [⟨.plain "/me", .listed [("GET", told)]⟩], some Handlers.notFound⟩

/-- Routes that have their templates from their texts, none of them for the path of the caller. -/
def Beside (before : List (Route σ)) : Prop :=
  ∀ route ∈ before, Template.ofChecked route.template.text = .ok route.template ∧
    route.template.text ≠ "/me"

/-- If the routes can be built with one handler that says who the caller is, they can be built with any,
and the route of the caller stands behind the same others. -/
theorem routes_telling_cases {told : Handler σ} {table : Table σ}
    (built : routesTelling told server tokens = .ok table) :
    ∃ before, Beside before ∧ ∀ other : Handler σ,
      routesTelling other server tokens = .ok (telling before other) := by
  obtain ⟨opened, first, built⟩ := bind_ok_iff.mp built
  obtain ⟨larger, added, _⟩ := bind_ok_iff.mp built
  have regular := open_routes_regular first
  have unanswered := Regular.unanswered added regular
  have read : Template.ofChecked "/me" = .ok (.plain "/me") := rfl
  refine ⟨opened.routes, fun route member => ⟨(regular route member).1, unanswered route member⟩,
    fun other => bind_ok_iff.mpr ⟨opened, first, bind_ok_iff.mpr ?_⟩⟩
  exact ⟨_, Table.add_absent unanswered rfl read other, rfl⟩

/-- The route of the health report. -/
def healthRoute : Route σ := ⟨.plain "/health", .listed [("GET", Handlers.health)]⟩

/-- It is the only one for its path, whichever path the metrics have. -/
theorem routes_health {table : Table σ} (built : routes server tokens = .ok table) :
    table.Sole healthRoute := by
  have closed {before : Table σ} (sole : before.Sole healthRoute)
      (rest : (do
        let table ← before.add "POST" "/auth/refresh"
          (Refresh.handler tokens server.maxRequestSize)
        let table ← table.add "GET" "/me" Handlers.me
        return { table with fallback := some Handlers.notFound }) = .ok table) :
      table.Sole healthRoute := by
    obtain ⟨first, refresh, rest⟩ := bind_ok_iff.mp rest
    obtain ⟨second, me, same⟩ := bind_ok_iff.mp rest
    cases same
    have refreshed := sole.kept refresh (by decide : "/health" ≠ "/auth/refresh")
    obtain ⟨there, only⟩ := refreshed.kept me (by decide : "/health" ≠ "/me")
    exact ⟨there, only⟩
  unfold routes at built
  obtain ⟨first, status, built⟩ := bind_ok_iff.mp built
  obtain ⟨second, health, built⟩ := bind_ok_iff.mp built
  cases status
  cases health
  have sole : (⟨[⟨.plain "/status", .listed [("GET", Handlers.status)]⟩] ++ [healthRoute], none⟩ :
      Table σ).Sole healthRoute :=
    Table.sole_last fun other member => by
      rw [List.mem_singleton.mp member]
      exact (by decide : "/status" ≠ "/health")
  split at built
  · obtain ⟨third, metrics, built⟩ := bind_ok_iff.mp built
    exact closed (sole.kept metrics (Table.add_unanswered metrics sole.there rfl rfl)) built
  · exact closed sole built

end Building

/-! ## Looking up -/

section Lookup

variable {before : List (Route σ)} {told other : Handler σ} {request : Request}

theorem telling_read (beside : Beside before) (told : Handler σ) :
    ∀ route ∈ (telling before told).routes,
      Template.ofChecked route.template.text = .ok route.template := by
  intro route member
  have own : Template.ofChecked "/me" = .ok (.plain "/me") := rfl
  rcases List.mem_append.mp member with here | last
  · exact (beside route here).1
  · rw [List.mem_singleton.mp last]
    exact own

theorem telling_find_own (beside : Beside before) (told : Handler σ) :
    (telling before told).find? "/me" = some ⟨.plain "/me", .listed [("GET", told)]⟩ :=
  Table.find_sole (by decide) (by decide) (Table.sole_last fun route member => (beside route member).2)
    (telling_read beside told)

theorem telling_find_other (told other : Handler σ) {path : String} (elsewhere : path ≠ "/me") :
    (telling before told).find? path = (telling before other).find? path :=
  (Table.find_beside (Ne.symm elsewhere)).trans (Table.find_beside (Ne.symm elsewhere)).symm

theorem telling_find_text (beside : Beside before) {path : String} {route : Route σ}
    (elsewhere : path ≠ "/me") (found : (telling before told).find? path = some route) :
    route.template.text ≠ "/me" := by
  have inside : (⟨before, some Handlers.notFound⟩ : Table σ).find? path = some route :=
    (Table.find_beside (Ne.symm elsewhere)).symm.trans found
  exact (beside route (Table.find_member inside)).2

/-- The route of a request is that of the caller exactly on its path. -/
theorem telling_routed_iff (beside : Beside before) :
    ((telling before told).routed request).route = some "/me" ↔ request.path = "/me" := by
  unfold Table.routed
  constructor
  · intro routed
    refine Classical.byContradiction fun elsewhere => ?_
    obtain ⟨route, found, text⟩ := Option.map_eq_some_iff.mp routed
    exact telling_find_text beside elsewhere found text
  · intro own
    simp only [own, telling_find_own beside]
    rfl

/-- A route for `GET` answers `HEAD` too. -/
theorem handler_of_get (told : Handler σ) (method : String) :
    (Methods.listed [("GET", told)]).handler? method =
      if method = "GET" ∨ method = "HEAD" then some told else none := by
  unfold Methods.handler?
  by_cases gets : method = "GET"
  · simp [gets]
  · by_cases heads : method = "HEAD"
    · rw [heads]
      rfl
    · simp [gets, heads]

theorem telling_target_own (beside : Beside before) (asks : request.AsksCaller) :
    (telling before told).target request = told := by
  unfold Table.target
  rw [asks.1, telling_find_own beside]
  simp only [handler_of_get, if_pos asks.2, Option.getD_some]

/-- A request for the health report gets to its handler. -/
theorem telling_target_health [Dependencies σ] (beside : Beside before)
    (sole : (telling before told).Sole healthRoute) (asks : request.AsksHealth) :
    (telling before told).target request = Handlers.health := by
  have found : (telling before told).find? "/health" = some healthRoute :=
    Table.find_sole (by decide) (by decide) sole (telling_read beside told)
  unfold Table.target
  rw [asks.1, asks.2, found]
  rfl

/-- What answers any other request has nothing to do with that handler. -/
theorem telling_target_other (told other : Handler σ) (beside : Beside before)
    (asks : ¬ request.AsksCaller) :
    (telling before told).target request = (telling before other).target request := by
  unfold Table.target
  by_cases own : request.path = "/me"
  · have refused : ¬ (request.method = "GET" ∨ request.method = "HEAD") := fun asked => asks ⟨own, asked⟩
    simp only [own, telling_find_own beside, handler_of_get, if_neg refused]
  · rw [telling_find_other told other own]
    rfl

theorem telling_refused (beside : Beside before) (own : request.path = "/me")
    (refused : ¬ (request.method = "GET" ∨ request.method = "HEAD")) :
    (telling before told).target request = Table.methodNotAllowed := by
  unfold Table.target
  simp only [own, telling_find_own beside, handler_of_get, if_neg refused, Option.getD_none]

theorem telling_routed (beside : Beside before) (request : Request) :
    (telling before told).routed request = (telling before other).routed request := by
  unfold Table.routed
  by_cases own : request.path = "/me"
  · rw [own, telling_find_own beside, telling_find_own beside]
    rfl
  · rw [telling_find_other told other own]

theorem telling_completion (beside : Beside before) (request : Request) (answer : Response) :
    (telling before told).completion request answer =
      (telling before other).completion request answer := by
  unfold Table.completion
  by_cases own : request.path = "/me"
  · rw [own, telling_find_own beside, telling_find_own beside]
    simp only [handler_of_get]
    split
    · rfl
    · rfl
  · rw [telling_find_other told other own]
    rfl

/-- Every answer is completed. -/
theorem telling_completes (before : List (Route σ)) (told : Handler σ) (request : Request)
    (answer : Response) : ∃ allow, (telling before told).completion request answer =
      Table.finish request.method allow answer := by
  unfold Table.completion
  cases (telling before told).find? request.path with
  | some route => exact ⟨_, rfl⟩
  | none => exact ⟨_, rfl⟩

end Lookup
end Service
end Gatehouse
