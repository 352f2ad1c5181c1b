import Gatehouse.Json.Decoder

/-!
What tokens are issued and checked with.
-/
namespace Gatehouse

/-- Lifetimes are in seconds. -/
structure TokenConfig where
  issuer : String
  audience : String
  secret : String
  accessLifetime : Nat
  refreshLifetime : Nat
  deriving DecidableEq, Repr

namespace TokenConfig

/-- The secret where none is configured. -/
def standardSecret : String := "boilerplate_secret_key"

def standard : TokenConfig :=
  ⟨"boilerplate", "boilerplate_audience", standardSecret, 3600, 86400⟩

def withSecret (secret : String) : TokenConfig := { standard with secret := secret }

def usesStandardSecret (config : TokenConfig) : Bool := config.secret == standardSecret

open Json.Decoder in
def shape : Shape TokenConfig where
  name := "JwtConfig"
  blank := standard
  shortLists := true
  fields := [
    .optional "issuer" text fun v c => { c with issuer := v },
    .optional "audience" text fun v c => { c with audience := v },
    .optional "secret_key" text fun v c => { c with secret := v },
    .optional "access_token_ttl" uint64 fun v c => { c with accessLifetime := v },
    .optional "refresh_token_ttl" uint64 fun v c => { c with refreshLifetime := v }]

end TokenConfig
end Gatehouse
