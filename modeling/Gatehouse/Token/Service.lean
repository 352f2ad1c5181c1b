import Gatehouse.Codec.Base64Url
import Gatehouse.Digest.Sha256
import Gatehouse.Text.Quoted
import Gatehouse.Token.Claims
import Gatehouse.Token.Config
import Gatehouse.Token.Error
import Gatehouse.Token.Header

/-!
Tokens: issuing, checking and exchanging them. A token is three parts joined by dots: the header and
the claims in base 64, and the keyed digest of these two. Times are whole seconds of the wall clock.
-/
namespace Gatehouse.Token

/-- The dot between the parts. -/
def dot : UInt8 := 0x2E

/-- The text of a part. -/
def part (bytes : Bytes) : String :=
  String.ofList ((Base64Url.encode bytes).map fun b => Char.ofNat b.toNat)

/-- The signature of header and claims, as text. -/
def signature (secret message : String) : String :=
  part (Sha256.keyed (Utf8.encode secret) (Utf8.encode message))

/-- A token for any claims, signed with the configured secret. -/
def sign (config : TokenConfig) (claims : Claims) : String :=
  let message := part (Utf8.encode TokenHeader.issued) ++ "." ++ part (Utf8.encode claims.toJson)
  message ++ "." ++ signature config.secret message

/-- The largest time a token can state. -/
def lastSecond : Int := 9223372036854775807

/-- The claims of a token issued at `now` for `lifetime` seconds. The end of its life stops at the
largest time a token can state. -/
def claimsFor (config : TokenConfig) (now : Int) (userId email role : String) (lifetime : Nat) :
    Claims :=
  ⟨userId, email, role, config.issuer, userId, [config.audience],
    min (now + min (lifetime : Int) lastSecond) lastSecond, now, now⟩

/-- A token valid from now on. -/
def issue (config : TokenConfig) (now : Int) (userId email role : String) (lifetime : Nat) :
    String :=
  sign config (claimsFor config now userId email role lifetime)

def issueAccess (config : TokenConfig) (now : Int) (userId email role : String) : String :=
  issue config now userId email role config.accessLifetime

def issueRefresh (config : TokenConfig) (now : Int) (userId email role : String) : String :=
  issue config now userId email role config.refreshLifetime

/-- What stands before and behind the last dot. -/
def splitLast? (text : Bytes) : Option (Bytes × Bytes) :=
  let behind := (text.reverse.takeWhile (· ≠ dot)).reverse
  if behind.length = text.length then none
  else some (text.take (text.length - behind.length - 1), behind)

/-- The three parts of a token. The first may hold dots that later make it ill formed. -/
structure Parts where
  header : Bytes
  payload : Bytes
  signature : Bytes
  deriving DecidableEq, Repr

def parts? (token : String) : Option Parts := do
  let (message, signature) ← splitLast? (Utf8.encode token)
  let (header, payload) ← splitLast? message
  return ⟨header, payload, signature⟩

/-- Reads the JSON of a part. -/
def readPart {α : Type} (shape : Json.Decoder.Shape α) (text : Bytes) :
    Except TokenDefect (α × Bytes) :=
  match Base64Url.decode text with
  | .error defect => .error (.base64 defect)
  | .ok document =>
    match Json.Decoder.run (Json.Decoder.record shape) document with
    | .error fault => .error (.json fault.message)
    | .ok value => .ok (value, document)

open Json in
/-- The members that are checked afterwards are read from the document once more: an object gives
them by name, while a list gives five in order and may not hold more. -/
def checkedMembers : Decoder Unit := fun depth => Decoder.withFirst fun b c =>
  if b = 0x5B then
    let skip : Decoder (Unit → Unit) := fun _ c => c.skipValue.map fun c => (id, c)
    let fields : List (Decoder.Field Unit) :=
      (List.range 5).map fun _ => ⟨"", true, skip⟩
    let shape : Decoder.Shape Unit := ⟨"ClaimsForValidation", fields, (), false⟩
    Decoder.record shape depth c
  else c.skipValue.map fun c => ((), c)

/-- The claims of a payload. -/
def readClaims (payload : Bytes) : Except TokenDefect Claims := do
  let (claims, document) ← readPart Claims.shape payload
  match Json.Decoder.run checkedMembers document with
  | .error fault => .error (.json fault.message)
  | .ok () => return claims

/-- Times, issuer and audience, in this order. A time before 1970 counts as not stated. -/
def checkClaims (config : TokenConfig) (now : Int) (claims : Claims) : Except TokenError Unit :=
  if claims.expiresAt < 0 then .error (.invalid (.missingClaim "exp"))
  else if claims.expiresAt < now then .error .expired
  else if 0 ≤ claims.notBefore ∧ now < claims.notBefore then .error (.invalid .tooEarly)
  else if claims.issuer ≠ config.issuer then .error (.invalid .issuer)
  else if !claims.audience.contains config.audience then .error (.invalid .audience)
  else .ok ()

/-- The claims of a token that is authentic, made for this service and valid now. -/
def validate (config : TokenConfig) (now : Int) (token : String) : Except TokenError Claims := do
  let some parts := parts? token | .error (.invalid .form)
  let (header, _) ← (readPart TokenHeader.shape parts.header).mapError .invalid
  if header.algorithm ≠ .hs256 then .error (.invalid .algorithm)
  else
    let message := parts.header ++ dot :: parts.payload
    let expected := Base64Url.encode (Sha256.keyed (Utf8.encode config.secret) message)
    if parts.signature ≠ expected then .error (.invalid .signature)
    else
      let claims ← (readClaims parts.payload).mapError .invalid
      checkClaims config now claims
      return claims

/-- The claims of a token, whoever made it and whenever. They decide nothing. -/
def peekClaims (token : String) : Except TokenError Claims := do
  let some parts := parts? token | .error (.invalid .form)
  let _ ← (readPart TokenHeader.shape parts.header).mapError .invalid
  (readClaims parts.payload).mapError .invalid

/-- A new access token for whom a valid token names. -/
def refreshAccess (config : TokenConfig) (now : Int) (token : String) :
    Except TokenError String := do
  let claims ← validate config now token
  return issueAccess config now claims.userId claims.email claims.role

/-- The service as diagnostics show it: the secret is left out. -/
def describe (config : TokenConfig) : String :=
  "JwtService \x7b issuer: " ++ Quoted.quote config.issuer ++ ", audience: " ++
    Quoted.quote config.audience ++ ", .. \x7d"

end Gatehouse.Token
