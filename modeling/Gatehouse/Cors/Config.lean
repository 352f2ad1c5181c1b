import Gatehouse.Json.Decoder

/-!
Which foreign pages may call the service, as configured.
-/
namespace Gatehouse

/-- Lists of texts as they stand in the document; `maxAge` is in seconds. -/
structure CorsConfig where
  origins : List String
  methods : List String
  headers : List String
  exposed : List String
  credentials : Bool
  maxAge : Nat
  deriving DecidableEq, Repr

namespace CorsConfig

def standard : CorsConfig :=
  ⟨["*"], ["GET", "POST", "PUT", "PATCH", "DELETE", "OPTIONS"],
    ["Accept", "Authorization", "Content-Type", "X-CSRF-Token"], ["Link"], false, 300⟩

open Json.Decoder in
def shape : Shape CorsConfig where
  name := "CorsConfig"
  blank := standard
  shortLists := true
  fields := [
    .optional "allowed_origins" (list text) fun v c => { c with origins := v },
    .optional "allowed_methods" (list text) fun v c => { c with methods := v },
    .optional "allowed_headers" (list text) fun v c => { c with headers := v },
    .optional "exposed_headers" (list text) fun v c => { c with exposed := v },
    .optional "allow_credentials" bool fun v c => { c with credentials := v },
    .optional "max_age" uint64 fun v c => { c with maxAge := v }]

end CorsConfig
end Gatehouse
