import Gatehouse.Config.Source
import Gatehouse.Database.Address
import Gatehouse.Redis.Address
import Gatehouse.Service.Pipeline
import Gatehouse.Startup.EnvFile
import Gatehouse.Startup.LogFilter

/-!
Starting the program: the variables, the configuration, the log filter, the database, Redis, the
service and the address it listens on, in this order. What can only be tried, such as a connection,
is handed in as `Reach`, in whatever monad it is tried; all that is decided about it stands here.
-/
namespace Gatehouse

/-- Why the program does not start. -/
inductive StartError where
  | configuration (error : ConfigSource.ConfigError)
  | database (error : Database.ConnectError)
  | redis (failure : Redis.Failure)
  | noDatabase
  | bind (address reason : String)

namespace StartError

/-- What could not be done. -/
def headline : StartError → String
  | configuration _ => "Failed to load configuration"
  | database _ => "Failed to connect to database"
  | redis _ => "Failed to connect to Redis"
  | noDatabase => "Postgres backend selected but DATABASE_URL is not set"
  | bind address _ => "Failed to bind " ++ address

/-- Why, the innermost cause last. -/
def causes : StartError → List String
  | configuration error => [error.message, error.detail]
  | database error => error.chain
  | redis failure => [failure.message]
  | noDatabase => []
  | bind _ reason => [reason]

/-- A cause under its mark, its further lines indented as far as the first one. -/
def causeText (mark indent cause : String) : String :=
  mark ++ ("\n" ++ indent).intercalate (cause.splitOn "\n")

/-- The causes, numbered if there is more than one. -/
def causesText : List String → String
  | [] => ""
  | [cause] => "\n\nCaused by:\n" ++ causeText "    " "    " cause
  | causes =>
    "\n\nCaused by:" ++ String.join (causes.zipIdx.map fun (cause, n) =>
      let number := Numeral.decimal n
      let padding := String.ofList (List.replicate (5 - number.length) ' ')
      "\n" ++ causeText (padding ++ number ++ ": ") "       " cause)

/-- What the program says when it gives up. -/
def text (error : StartError) : String :=
  "Error: " ++ error.headline ++ causesText error.causes ++ "\n"

end StartError

/-- The attempts that starting takes. -/
structure Reach (m : Type → Type) where
  database : Database.Address → m (Except Database.Failure Unit)
  /-- Removes counters that are over from a database, and says how many. -/
  cleanup : Database.Address → m (Except RateLimit.LimitError Nat)
  redis : Redis.Address → m (Except String Unit)
  listen : String → m (Except String Unit)

/-- What an attempt to reach a database comes to where none is there: a local socket does not exist,
and a host refuses until the pool gives up. -/
def Database.Address.absence (address : Database.Address) : Database.Failure :=
  match address.socket with
  | some _ => .unreachable "No such file or directory (os error 2)"
  | none => .noConnection

/-- What an attempt to reach Redis comes to where none is there. -/
def Redis.Address.absence : Redis.Address → String
  | .socket _ => "No such file or directory (os error 2)"
  | .host _ _ => "Connection refused (os error 111)"

/-- Whether an address to listen on can be looked up at all. -/
def checkListenAddress (address : String) : Except String Unit :=
  if address.toList.contains '\x00' then .error "file name contained an unexpected NUL byte"
  else .ok ()

/-- Attempts where no other service runs anywhere. -/
def Reach.alone {m : Type → Type} [Monad m] : Reach m where
  database address := return .error address.absence
  cleanup _ := return .error (.database Database.Failure.noConnection.message)
  redis address := return .error address.absence
  listen address := return checkListenAddress address

/-- How starting ends. -/
inductive Ending where
  | refused (error : StartError)
  | broken (defect : BuildDefect)
  | ready (config : AppConfig) (filter : List LogFilter.Directive)

/-- How starting went: what the log shows, and how it ended. -/
structure StartReport where
  log : List LogLine
  ending : Ending

namespace Startup

variable {m : Type → Type} [Monad m]

/-- An activity of starting: it logs, and may end the start. -/
abbrev Step (m : Type → Type) := ExceptT Ending (StateT (List LogLine) m)

/-- Makes an attempt. -/
def attempt {α : Type} (action : m α) : Step m α := liftM action

/-- The part of the program that starts it. -/
def mainTarget : String := "api"

def say (target : String) (event : Event) : Step m Unit :=
  modify fun lines => lines ++ [⟨target, event⟩]

def tell (level : Level) (message : String) (fields : List (String × String)) : Step m Unit :=
  say mainTarget ⟨level, message, fields⟩

def refuse {α : Type} (error : StartError) : Step m α := throw (.refused error)

/-- Connects to the database, if one is named. -/
def connectDatabase (reach : Reach m) (config : AppConfig) : Step m (Option Database.Address) := do
  match config.database.url with
  | none =>
    tell .info "DATABASE_URL not set, running without a database" []
    return none
  | some url =>
    match Database.Address.ofText url with
    | .error error => refuse (.database (.address error))
    | .ok address =>
      match ← attempt (reach.database address) with
      | .error failure => refuse (.database (.failed failure))
      | .ok () =>
        tell .info "Connected to database" []
        tell .info "Migrations completed" []
        return some address

/-- Tries to reach Redis. -/
def findRedis (reach : Reach m) (url : String) : Step m (Except Redis.Failure Unit) := do
  match Redis.Address.ofText url with
  | .error error => return .error (.address error)
  | .ok address => return (← attempt (reach.redis address)).mapError .unreachable

/-- Connects to Redis, which must succeed only if it keeps the counters. -/
def connectRedis (reach : Reach m) (config : AppConfig) : Step m Unit := do
  match ← findRedis reach config.redisUrl with
  | .ok () => tell .info "Connected to Redis" []
  | .error failure =>
    if config.server.limits.backend = .redis then refuse (.redis failure)
    else
      tell .warn "Redis unavailable, health will report it down" [("error", failure.message)]

/-- Makes the counter store ready. -/
def prepareCounters (reach : Reach m) (config : AppConfig) (database : Option Database.Address) :
    Step m Unit := do
  match config.server.limits.backend, database with
  | .redis, _ => return ()
  | .postgres, none => refuse .noDatabase
  | .postgres, some address =>
    match ← attempt (reach.cleanup address) with
    | .ok count =>
      tell .info "Rate limit bucket cleanup completed" [("buckets_deleted", Numeral.decimal count)]
    | .error error =>
      tell .warn "Rate limit bucket cleanup failed, continuing anyway" [("error", error.message)]
  | .memory, _ =>
    tell .warn "In-process rate limit store; limits are not shared between instances" []

/-- Builds the service. A defect of the routes shows before anything is logged. -/
def buildService (config : AppConfig) : Step m Unit := do
  let built : Except BuildDefect (Service RateLimit.MemoryStore) :=
    Service.build config.server config.tokens
  match built with
  | .error (.route defect) => throw (.broken (.route defect))
  | _ =>
    for event in Service.buildEvents config.server do
      say "api::server" event
    match built with
    | .error defect => throw (.broken defect)
    | .ok _ => return ()

/-- Everything from the configuration on. -/
def launch (reach : Reach m) (config : AppConfig) : Step m Unit := do
  if config.tokens.usesStandardSecret then
    tell .warn "JWT secret is the built-in default; set JWT_SECRET in production" []
  for event in config.server.limits.warnings do
    say "api::config" event
  let database ← connectDatabase reach config
  connectRedis reach config
  prepareCounters reach config database
  buildService config
  match ← attempt (reach.listen config.server.bindAddress) with
  | .error reason => refuse (.bind config.server.bindAddress reason)
  | .ok () => tell .info ("Listening on " ++ config.server.bindAddress) []

/-- Starts the program in a directory, with a file of variables and the files as they are. -/
def run (reach : Reach m) (directory : Except String String) (settings : Option Bytes)
    (file : String → m ConfigSource.FileState) (env : Environment) : m StartReport := do
  let env := match settings with
    | some bytes => EnvFile.load bytes env
    | none => env
  let loaded ← match ConfigSource.path env directory with
    | .error error => pure (.error error)
    | .ok path => pure (ConfigSource.load path (← file path) env)
  match loaded with
  | .error error => return ⟨[], .refused (.configuration error)⟩
  | .ok config =>
    let filter := LogFilter.choose [env.lookup "RUST_LOG", some config.logLevel]
    let (outcome, lines) ← (ExceptT.run (launch reach config)).run []
    return ⟨lines.filter (LogFilter.shows filter), match outcome with
      | .ok () => .ready config filter
      | .error ending => ending⟩

end Startup

/-- The exit code of a start that ends the program. -/
def Ending.exitCode : Ending → Nat
  | .refused _ => 1
  | .broken _ => 101
  | .ready _ _ => 0

/-- What the program says at its end. -/
def Ending.text : Ending → String
  | .refused error => error.text
  | .broken defect => defect.message
  | .ready _ _ => ""

end Gatehouse
