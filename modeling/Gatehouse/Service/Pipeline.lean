import Gatehouse.Config.Server
import Gatehouse.Cors.Rules
import Gatehouse.Metrics.Tracking
import Gatehouse.Router.Table
import Gatehouse.Service.Handlers
import Gatehouse.Service.Hardening
import Gatehouse.Service.Stages

/-!
The service as a whole: its routes, and the stages that every request passes on the way in and out.
-/
namespace Gatehouse

open RateLimit

/-- Why a service cannot be built from its configuration. -/
inductive BuildDefect where
  | route (defect : Router.RouteDefect)
  | cors (defect : Cors.Defect)

def BuildDefect.message : BuildDefect → String
  | route defect => defect.message
  | cors defect => defect.message

namespace Service

variable {σ : Type}

/-- The routes. The metrics have a path of their own choice, which may not be taken. -/
def routes [Dependencies σ] (server : ServerConfig) (tokens : TokenConfig) :
    Except Router.RouteDefect (Router.Table σ) := do
  let table ← Router.Table.empty.add "GET" "/status" Handlers.status
  let table ← table.add "GET" "/health" Handlers.health
  let table ← if server.metrics.enabled then
      table.add "GET" server.metrics.path Handlers.metrics
    else pure table
  let table ← table.add "POST" "/auth/refresh" (Refresh.handler tokens server.maxRequestSize)
  let table ← table.add "GET" "/me" Handlers.me
  return { table with fallback := some Handlers.notFound }

/-- The limiter stages that are installed, the widest outermost. -/
def limiters (server : ServerConfig) : List Stage :=
  (Scope.all.map fun scope => Stage.mk scope (server.limits.policy scope) true).filter
    (·.policy.enabled)

/-- What the log gets while the service is built. -/
def buildEvents (server : ServerConfig) : List Event :=
  ((limiters server).map fun stage =>
    ⟨.info, "Rate limiter enabled",
      [("scope", stage.scope.code), ("requests", Numeral.decimal stage.policy.limit),
        ("window_secs", Numeral.decimal stage.policy.windowSeconds)]⟩) ++
    Cors.buildEvents server.cors

/-- All stages, the outermost first. -/
def stages [CounterStore σ] (server : ServerConfig) (tokens : TokenConfig) (rules : Cors.Rules)
    (freshId : Bytes) : Layer σ := fun handler =>
  Stages.requestId freshId <|
  Stages.catchBreakdown <|
  Hardening.layer <|
  Stages.compress server.compression.enabled <|
  (Metrics.Tracking.of server.metrics.enabled server.metrics.path server.metrics.excluded).layer <|
  Stages.timeLimit (server.requestTimeout * 1_000_000_000) <|
  RateLimit.stack server.limits.timeout (limiters server) <|
  rules.layer <|
  Access.gate tokens .service true handler

end Service

/-- A service that can answer. -/
structure Service (σ : Type) where
  table : Router.Table σ
  rules : Cors.Rules
  server : ServerConfig
  tokens : TokenConfig

namespace Service

variable {σ : Type}

/-- Builds a service. Routes are checked before the rules for foreign pages. -/
def build [Dependencies σ] (server : ServerConfig) (tokens : TokenConfig) :
    Except BuildDefect (Service σ) := do
  let table ← (routes server tokens).mapError .route
  let rules ← (Cors.rules server.cors).mapError .cors
  rules.check.mapError .cors
  return ⟨table, rules, server, tokens⟩

/-- Answers a request; `freshId` identifies it if it brings no identifier. -/
def handle [CounterStore σ] (service : Service σ) (freshId : Bytes) : Handler σ :=
  service.table.serve (stages service.server service.tokens service.rules freshId)

end Service
end Gatehouse
