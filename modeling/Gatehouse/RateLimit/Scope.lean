import Gatehouse.Http.Request
import Gatehouse.RateLimit.Error

/-!
Scopes: what requests are counted by, and the key of the counter that a request belongs to.
-/
namespace Gatehouse.RateLimit

inductive Scope where
  | global
  | client
  | endpoint
  deriving DecidableEq, Repr

namespace Scope

/-- All scopes, the widest first. -/
def all : List Scope := [global, client, endpoint]

/-- The name of a scope in documents, logs and metrics. -/
def code : Scope → String
  | global => "global"
  | client => "ip"
  | endpoint => "endpoint"

/-- The scope of a name. -/
def ofCode (name : String) : Except LimitError Scope :=
  match name with
  | "global" => .ok global
  | "ip" => .ok client
  | "endpoint" => .ok endpoint
  | other => .error (.unknownScope other)

end Scope

/-- The key of a counter. -/
structure Key where
  text : String
  deriving DecidableEq, Repr

namespace Key

def global : Key := ⟨"rate_limit:global"⟩

def client (address : String) : Key := ⟨"rate_limit:ip:" ++ address⟩

def endpoint (address method path : String) : Key :=
  ⟨"rate_limit:endpoint:" ++ address ++ ":" ++ method ++ ":" ++ path⟩

/-- The counter of a scope that a request belongs to. -/
def derive (scope : Scope) (request : Request) : Except LimitError Key :=
  match scope, request.clientAddress with
  | .global, _ => .ok global
  | _, none => .error .addressUnavailable
  | .client, some address => .ok (client address)
  | .endpoint, some address => .ok (endpoint address request.method request.path)

end Key
end Gatehouse.RateLimit
