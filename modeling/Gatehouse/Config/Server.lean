import Gatehouse.Config.Limits
import Gatehouse.Cors.Config

/-!
The server section of the configuration: where it listens, what requests may cost, and the sections
of the stages that requests pass.
-/
namespace Gatehouse

structure CompressionConfig where
  enabled : Bool
  level : Nat
  deriving DecidableEq, Repr

structure MetricsConfig where
  enabled : Bool
  path : String
  excluded : List String
  deriving DecidableEq, Repr

/-- Times are in seconds, sizes in bytes. -/
structure ServerConfig where
  host : String
  port : Nat
  readTimeout : Nat
  shutdownTimeout : Nat
  maxRequestSize : Nat
  compression : CompressionConfig
  cors : CorsConfig
  limits : LimitsConfig
  metrics : MetricsConfig
  deriving DecidableEq, Repr

open Json.Decoder

namespace CompressionConfig

def standard : CompressionConfig := ⟨true, 6⟩

def shape : Shape CompressionConfig where
  name := "CompressionConfig"
  blank := standard
  shortLists := true
  fields := [
    .optional "enabled" bool fun v c => { c with enabled := v },
    .optional "level" uint32 fun v c => { c with level := v }]

end CompressionConfig

namespace MetricsConfig

def standard : MetricsConfig := ⟨true, "/metrics", ["/health", "/status"]⟩

def shape : Shape MetricsConfig where
  name := "MetricsConfig"
  blank := standard
  shortLists := true
  fields := [
    .optional "enabled" bool fun v c => { c with enabled := v },
    .optional "path" text fun v c => { c with path := v },
    .optional "exclude_paths" (list text) fun v c => { c with excluded := v }]

end MetricsConfig

namespace ServerConfig

def standard : ServerConfig :=
  ⟨"0.0.0.0", 8080, 10, 10, 10485760, .standard, .standard, .standard, .standard⟩

def shape : Shape ServerConfig where
  name := "ServerConfig"
  blank := standard
  shortLists := true
  fields := [
    .optional "host" text fun v c => { c with host := v },
    .optional "port" uint16 fun v c => { c with port := v },
    .optional "read_timeout" uint64 fun v c => { c with readTimeout := v },
    .optional "shutdown_timeout" uint64 fun v c => { c with shutdownTimeout := v },
    .optional "max_request_size" wordSize fun v c => { c with maxRequestSize := v },
    .optional "compression" (record CompressionConfig.shape) fun v c =>
      { c with compression := v },
    .optional "cors" (record CorsConfig.shape) fun v c => { c with cors := v },
    .optional "rate_limit" LimitsConfig.decoder fun v c => { c with limits := v },
    .optional "metrics" (record MetricsConfig.shape) fun v c => { c with metrics := v }]

/-- Where the server listens. -/
def bindAddress (config : ServerConfig) : String :=
  config.host ++ ":" ++ Numeral.decimal config.port

/-- How long a request may take, at least one second. -/
def requestTimeout (config : ServerConfig) : Nat := max config.readTimeout 1

end ServerConfig
end Gatehouse
