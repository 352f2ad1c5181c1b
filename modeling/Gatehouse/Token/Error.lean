import Gatehouse.Codec.Base64Url
import Gatehouse.Json.Fault

/-!
Why a token is refused, or could not be made.
-/
namespace Gatehouse

/-- What is wrong with a token that is not simply too old. -/
inductive TokenDefect where
  /-- Not three parts. -/
  | form
  | base64 (defect : Base64Url.Defect)
  | json (message : String)
  | algorithm
  | signature
  | missingClaim (name : String)
  | tooEarly
  | issuer
  | audience
  /-- A defect that is known by its wording alone. -/
  | other (message : String)
  deriving DecidableEq, Repr

def TokenDefect.message : TokenDefect → String
  | form => "InvalidToken"
  | base64 defect => "Base64 error: " ++ defect.message
  | json message => "JSON error: " ++ message
  | algorithm => "InvalidAlgorithm"
  | signature => "InvalidSignature"
  | missingClaim name => "Missing required claim: " ++ name
  | tooEarly => "ImmatureSignature"
  | issuer => "InvalidIssuer"
  | audience => "InvalidAudience"
  | other message => message

inductive TokenError where
  | expired
  | invalid (defect : TokenDefect)
  | signing (reason : String)
  deriving DecidableEq, Repr

def TokenError.message : TokenError → String
  | expired => "Token has expired"
  | invalid defect => "Invalid token: " ++ defect.message
  | signing reason => "Failed to sign token: " ++ reason

end Gatehouse
