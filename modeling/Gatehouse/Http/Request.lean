import Gatehouse.Http.Address
import Gatehouse.Http.Message
import Gatehouse.Token.Claims

/-!
Requests on their way through the service: what the peer sent, the transport address, and what
stages found out so far.
-/
namespace Gatehouse

/-- Who a request was made by, as its token says. -/
structure Identity where
  userId : String
  email : String
  role : String
  claims : Claims
  deriving DecidableEq, Repr

/-- The identity that a token's claims name. -/
def Identity.ofClaims (claims : Claims) : Identity :=
  ⟨claims.userId, claims.email, claims.role, claims⟩

/-- A request. `route` is the template of the route that answers it, where there is one; `identity`
is set once a token has been accepted. -/
structure Request where
  method : String
  path : String
  headers : Headers
  body : Bytes
  peer : Option SocketAddress
  route : Option String
  identity : Option Identity
  deriving DecidableEq, Repr

/-- The address a request counts for: the first `x-forwarded-for` value as it stands, else the first
`x-real-ip` value, else the transport address. Empty values do not count, ill-formed bytes are
replaced. -/
def clientAddress (headers : Headers) (peer : Option SocketAddress) : Option String :=
  let announced (name : String) : Option String :=
    ((headers.get? name).filter (!·.isEmpty)).map Utf8.decodeLossy
  (announced "x-forwarded-for").or <|
    (announced "x-real-ip").or <|
      peer.map SocketAddress.toText

/-- The address a request counts for. -/
def Request.clientAddress (request : Request) : Option String :=
  Gatehouse.clientAddress request.headers request.peer

end Gatehouse
