import Gatehouse.Redis.Failure
import Gatehouse.Url

/-!
Addresses of Redis servers: a host and a database number, or the path of a local socket.
-/
namespace Gatehouse.Redis

inductive Address where
  | host (name : String) (port : Nat)
  | socket (path : String)
  deriving DecidableEq, Repr

namespace Address

def standardPort : Nat := 6379

/-- The schemes of addresses, without the encrypted one. -/
def socketSchemes : List String := ["unix", "redis+unix"]

/-- Whether a part of an address means a text. -/
def meansText (part : String) : Bool := (Utf8.decode? (Percent.bytesOf part)).isSome

/-- The last value of a name in the query. -/
def lastValue? (url : Url) (name : String) : Option String :=
  (Percent.pairs url.query).reverse.lookup name

/-- Only two versions of the protocol can be asked for. -/
def checkProtocol (url : Url) : Except AddressError Unit :=
  match lastValue? url "protocol" with
  | none => .ok ()
  | some version =>
    if ["2", "resp2", "3", "resp3"].contains version then .ok () else .error (.protocol version)

/-- The database number, where one is given, must be a number. -/
def checkDatabase (text : List Char) : Except AddressError Unit :=
  if (Numeral.int64? text).isSome then .ok () else .error .database

/-- A server on a host. -/
def ofHostUrl (url : Url) : Except AddressError Address := do
  let some name := url.host | throw .noHost
  if url.scheme = "rediss" then throw .encrypted
  let database := Blank.trimWhere (· = '/') url.path.toList
  if !database.isEmpty then checkDatabase database
  if !meansText url.user then throw .user
  if !meansText (url.password.getD "") then throw .password
  checkProtocol url
  return .host name (url.port.getD standardPort)

/-- A server behind a local socket. -/
def ofSocketUrl (url : Url) : Except AddressError Address := do
  if !url.path.startsWith "/" || (url.host.getD "localhost") ≠ "localhost" then throw .noPath
  match lastValue? url "db" with
  | some database => checkDatabase database.toList
  | none => pure ()
  checkProtocol url
  return .socket (Utf8.decodeLossy (Percent.bytesOf url.path))

/-- Reads an address. -/
def ofText (text : String) : Except AddressError Address :=
  match Url.ofText text with
  | .error _ => .error .unreadable
  | .ok url =>
    if ["redis", "rediss"].contains url.scheme then ofHostUrl url
    else if socketSchemes.contains url.scheme then ofSocketUrl url
    else .error .unreadable

end Address
end Gatehouse.Redis
