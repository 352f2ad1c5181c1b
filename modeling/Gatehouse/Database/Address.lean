import Gatehouse.Database.Pool
import Gatehouse.Text.IllFormed
import Gatehouse.Text.Quoted
import Gatehouse.Url

/-!
Addresses of databases: where the server is, and why a text names none. Parameters of the query are
checked in the order they are given.
-/
namespace Gatehouse.Database

/-- Why a text is no whole number within a limit. -/
inductive NumberError where
  | empty
  | digit
  | tooLarge
  deriving DecidableEq, Repr

def NumberError.message : NumberError → String
  | empty => "cannot parse integer from empty string"
  | digit => "invalid digit found in string"
  | tooLarge => "number too large to fit in target type"

inductive AddressError where
  | unreadable (defect : UrlDefect)
  | notText (run : Utf8.IllFormed)
  | encryption (mode : String)
  | number (error : NumberError)
  | hostAddress
  deriving DecidableEq, Repr

namespace AddressError

/-- The causes of the error, the innermost last. -/
def causes : AddressError → List String
  | unreadable defect => [defect.message]
  | notText run => [run.message]
  | encryption mode =>
    let unknown := "unknown value " ++ Quoted.quote mode ++ " for \x60ssl_mode\x60"
    ["error with configuration: " ++ unknown, unknown]
  | number error => [error.message]
  | hostAddress => ["invalid IP address syntax"]

/-- The error and its causes, the error itself first. -/
def chain (error : AddressError) : List String :=
  (error.causes.head?.toList.map ("error with configuration: " ++ ·)) ++ error.causes

end AddressError

/-- Where a server is reached. A local socket, once given, goes before any host. -/
structure Address where
  socket : Option String
  host : String
  port : Nat
  deriving DecidableEq, Repr

namespace Address

def standard : Address := ⟨none, "localhost", 5432⟩

/-- Reads a whole number up to a limit, digit by digit. -/
def number (limit : Nat) (text : String) : Except NumberError Nat :=
  let digits := match text.toList with
    | '+' :: rest => rest
    | whole => whole
  if text.isEmpty then .error .empty
  else if digits.isEmpty then .error .digit
  else
    digits.foldlM (fun n c =>
      match Numeral.digitValue? c with
      | none => .error .digit
      | some d => if n * 10 + d ≤ limit then .ok (n * 10 + d) else .error .tooLarge) 0

/-- The text that a part of an address means. -/
def meaning (part : String) : Except AddressError String :=
  let bytes := Percent.bytesOf part
  match Utf8.decode? bytes, Utf8.illFormed? bytes with
  | some text, _ => .ok text
  | none, some run => .error (.notText run)
  | none, none => .ok ""

def encryptionModes : List String :=
  ["disable", "allow", "prefer", "require", "verify-ca", "verify-full"]

/-- A host, which is a local socket if it starts with a slash. -/
def withHost (address : Address) (host : String) : Address :=
  if host.startsWith "/" then { address with socket := some host } else { address with host }

/-- Takes in one parameter of the query; those that do not matter here are passed over. -/
def withParameter (address : Address) : String × String → Except AddressError Address
  | (name, value) =>
    if ["sslmode", "ssl-mode"].contains name then
      if encryptionModes.contains value.toLower then .ok address else .error (.encryption value)
    else if name = "statement-cache-capacity" then
      ((number 18446744073709551615 value).map fun _ => address).mapError .number
    else if name = "host" then .ok (address.withHost value)
    else if name = "hostaddr" then
      if (SocketAddress.octets? value.toList).isSome || (SocketAddress.v6Words? value).isSome then
        .ok { address with host := value }
      else .error .hostAddress
    else if name = "port" then
      ((number 65535 value).map fun port => { address with port }).mapError .number
    else .ok address

/-- Reads an address. User, password and database must mean texts. -/
def ofText (text : String) : Except AddressError Address := do
  let url ← (Url.ofText text).mapError .unreadable
  let address ← match url.host with
    | none => pure standard
    | some host =>
      if (Percent.bytesOf host).head? = some 0x2F then pure (standard.withHost (← meaning host))
      else pure { standard with host }
  let address := { address with port := url.port.getD address.port }
  let _ ← meaning url.user
  let _ ← meaning (url.password.getD "")
  let _ ← meaning (String.ofList (url.path.toList.dropWhile (· = '/')))
  (Percent.pairs url.query).foldlM withParameter address

end Address

/-- Why there is no connection to the database. -/
inductive ConnectError where
  | address (error : AddressError)
  | failed (failure : Failure)
  deriving DecidableEq, Repr

/-- The error and its causes, the error itself first. -/
def ConnectError.chain : ConnectError → List String
  | address error => error.chain
  | failed (.unreachable reason) => [(Failure.unreachable reason).message, reason]
  | failed .noConnection => [Failure.noConnection.message]

end Gatehouse.Database
