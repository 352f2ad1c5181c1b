import Gatehouse.Http.Message
import Gatehouse.Text.Blank
import Gatehouse.Token.Error

/-!
Credentials in the `authorization` field, and why they are rejected.
-/
namespace Gatehouse.Access

/-- What is wrong with a credential before its token is looked at. -/
inductive CredentialError where
  | missing
  | otherScheme
  | emptyToken
  deriving DecidableEq, Repr

/-- Why a request is not let through. -/
inductive AccessError where
  | credential (error : CredentialError)
  | token (error : TokenError)
  | internal (detail : String)
  deriving DecidableEq, Repr

/-- The reasons that are counted. -/
inductive Reason where
  | missingHeader
  | invalidScheme
  | emptyToken
  | expired
  | invalid
  deriving DecidableEq, Repr

def Reason.code : Reason → String
  | missingHeader => "missing_header"
  | invalidScheme => "invalid_scheme"
  | emptyToken => "empty_token"
  | expired => "expired"
  | invalid => "invalid"

namespace AccessError

def message : AccessError → String
  | credential .missing => "Authorization header is missing"
  | credential .otherScheme => "Authorization header is not a bearer credential"
  | credential .emptyToken => "Bearer token is empty"
  | token error => error.message
  | internal detail => "Internal error: " ++ detail

def reason : AccessError → Reason
  | credential .missing => .missingHeader
  | credential .otherScheme => .invalidScheme
  | credential .emptyToken => .emptyToken
  | token .expired => .expired
  | token _ => .invalid
  | internal _ => .invalid

end AccessError

/-- What a credential starts with. -/
def scheme : List Char := "Bearer ".toList

/-- What follows the scheme, where a text starts with it. -/
def afterScheme? (text : List Char) : Option (List Char) :=
  if scheme.isPrefixOf text then some (text.drop scheme.length) else none

/-- The token of the first `authorization` value: text behind the scheme, without blanks around
it. -/
def bearerToken (headers : Headers) : Except CredentialError String :=
  match headers.get? "authorization" with
  | none => .error .missing
  | some value =>
    match (headerText? value).bind fun text => afterScheme? text.toList with
    | none => .error .otherScheme
    | some rest =>
      match Blank.trimWhere Blank.isBlank rest with
      | [] => .error .emptyToken
      | token => .ok (String.ofList token)

end Gatehouse.Access
