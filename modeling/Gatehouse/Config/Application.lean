import Gatehouse.Config.Server
import Gatehouse.Token.Config

/-!
The whole configuration: one document in which every member may be absent, and a few values that the
environment overrides.
-/
namespace Gatehouse

structure DatabaseConfig where
  url : Option String
  maxConnections : Nat
  deriving DecidableEq, Repr

structure AppConfig where
  server : ServerConfig
  tokens : TokenConfig
  redisUrl : String
  database : DatabaseConfig
  logLevel : String
  deriving DecidableEq, Repr

/-- The variables of an environment. -/
abbrev Environment := List (String × String)

/-- The value of a variable that is set and not empty. -/
def Environment.nonEmpty? (env : Environment) (name : String) : Option String :=
  (env.lookup name).filter (· ≠ "")

open Json.Decoder

namespace DatabaseConfig

def standard : DatabaseConfig := ⟨none, 5⟩

def shape : Shape DatabaseConfig where
  name := "DatabaseConfig"
  blank := standard
  shortLists := true
  fields := [
    .optional "url" (Json.Decoder.optional text) fun v c => { c with url := v },
    .optional "max_connections" uint32 fun v c => { c with maxConnections := v }]

end DatabaseConfig

namespace AppConfig

def standardRedisUrl : String := "redis://127.0.0.1:6379/0"

def redisShape : Shape String where
  name := "RedisConfig"
  blank := standardRedisUrl
  shortLists := true
  fields := [.optional "url" text fun v _ => v]

def loggerShape : Shape String where
  name := "LoggerConfig"
  blank := "info"
  shortLists := true
  fields := [.optional "level" text fun v _ => v]

def standard : AppConfig := ⟨.standard, .standard, standardRedisUrl, .standard, "info"⟩

def shape : Shape AppConfig where
  name := "AppConfig"
  blank := standard
  shortLists := true
  fields := [
    .optional "server" (record ServerConfig.shape) fun v c => { c with server := v },
    .optional "jwt" (record TokenConfig.shape) fun v c => { c with tokens := v },
    .optional "redis" (record redisShape) fun v c => { c with redisUrl := v },
    .optional "database" (record DatabaseConfig.shape) fun v c => { c with database := v },
    .optional "logger" (record loggerShape) fun v c => { c with logLevel := v }]

/-- Variables that are set and not empty replace what the document gives. -/
def override (config : AppConfig) (env : Environment) : AppConfig :=
  { config with
    redisUrl := (env.nonEmpty? "REDIS_URL").getD config.redisUrl
    database := { config.database with
      url := (env.nonEmpty? "DATABASE_URL").or config.database.url }
    tokens := { config.tokens with
      secret := (env.nonEmpty? "JWT_SECRET").getD config.tokens.secret } }

/-- The configuration of a document. -/
def ofDocument (document : Bytes) : Except Json.Fault AppConfig :=
  run (record shape) document

end AppConfig
end Gatehouse
