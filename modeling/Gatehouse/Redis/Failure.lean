import Gatehouse.Text.Numeral

/-!
Why Redis brought no value: it answered with an error, its answer had another shape than the command
needs, or it was never reached.
-/
namespace Gatehouse.Redis

/-- An error reply: the word it starts with, and what follows. -/
structure ServerError where
  code : String
  detail : Option String
  deriving DecidableEq, Repr

namespace ServerError

/-- The error of an error line, which is split at its first space. -/
def ofLine (line : String) : ServerError :=
  match line.toList.dropWhile (· ≠ ' ') with
  | [] => ⟨line, none⟩
  | _ :: detail => ⟨String.ofList (line.toList.takeWhile (· ≠ ' ')), some (String.ofList detail)⟩

/-- Codes of the protocol itself, and what they are called in diagnostics. -/
def kinds : List (String × String) := [
  ("ERR", "ResponseError"),
  ("EXECABORT", "ExecAbortError"),
  ("LOADING", "BusyLoadingError"),
  ("NOSCRIPT", "NoScriptError"),
  ("MOVED", "Moved"),
  ("ASK", "Ask"),
  ("TRYAGAIN", "TryAgain"),
  ("CLUSTERDOWN", "ClusterDown"),
  ("CROSSSLOT", "CrossSlot"),
  ("MASTERDOWN", "MasterDown"),
  ("READONLY", "ReadOnly"),
  ("NOTBUSY", "NotBusy")]

/-- Errors of the protocol itself are told as the server's; others show their code. -/
def message (error : ServerError) : String :=
  match kinds.lookup error.code, error.detail with
  | some kind, some detail =>
    "An error was signalled by the server - " ++ kind ++ ": " ++ detail
  | some kind, none => "An error was signalled by the server- " ++ kind
  | none, detail =>
    error.code ++ ": " ++ detail.getD "Unknown extension error encountered"

/-- The server does not know the script that was called. -/
def isUnknownScript (error : ServerError) : Bool := error.code == "NOSCRIPT"

end ServerError

/-- Why an answer could not be used. A shape is told with the answer, bytes that are no text are
not. -/
inductive ShapeError where
  | incompatible (reason value : String)
  | invalidText
  | inconvertibleText
  deriving DecidableEq, Repr

def ShapeError.message : ShapeError → String
  | incompatible reason value =>
    "Response was of incompatible type - TypeError: \"" ++ reason ++ "\" (response was " ++ value ++
      ")"
  | invalidText => "Invalid UTF-8- TypeError"
  | inconvertibleText => "Cannot convert from UTF-8- TypeError"

/-- Why an address names no server that can be used. -/
inductive AddressError where
  | unreadable
  | encrypted
  | noHost
  | noPath
  | database
  | user
  | password
  | protocol (version : String)
  deriving DecidableEq, Repr

def AddressError.message : AddressError → String
  | unreadable => "Redis URL did not parse- InvalidClientConfig"
  | encrypted => "can\x27t connect with TLS, the feature is not enabled- InvalidClientConfig"
  | noHost => "Missing hostname- InvalidClientConfig"
  | noPath => "Missing path- InvalidClientConfig"
  | database => "Invalid database number- InvalidClientConfig"
  | user => "Username is not valid UTF-8 string- InvalidClientConfig"
  | password => "Password is not valid UTF-8 string- InvalidClientConfig"
  | protocol version => "Invalid protocol version - InvalidClientConfig: " ++ version

inductive Failure where
  | server (error : ServerError)
  | shape (error : ShapeError)
  | address (error : AddressError)
  /-- The connection could not be made. -/
  | unreachable (reason : String)
  deriving DecidableEq, Repr

def Failure.message : Failure → String
  | server error => error.message
  | shape error => error.message
  | address error => error.message
  | unreachable reason => reason

end Gatehouse.Redis
