import Gatehouse.Json.Decoder

/-!
The claims of a token, and their JSON text in both directions.
-/
namespace Gatehouse

/-- What a token states. Times are seconds since the start of 1970. -/
structure Claims where
  userId : String
  email : String
  role : String
  issuer : String
  subject : String
  audience : List String
  expiresAt : Int
  notBefore : Int
  issuedAt : Int
  deriving DecidableEq, Repr

namespace Claims

def blank : Claims := ⟨"", "", "", "", "", [], 0, 0, 0⟩

/-- Every member must be present; others are passed over. -/
def shape : Json.Decoder.Shape Claims where
  name := "Claims"
  blank := blank
  shortLists := false
  fields := [
    .required "user_id" Json.Decoder.text fun v c => { c with userId := v },
    .required "email" Json.Decoder.text fun v c => { c with email := v },
    .required "role" Json.Decoder.text fun v c => { c with role := v },
    .required "iss" Json.Decoder.text fun v c => { c with issuer := v },
    .required "sub" Json.Decoder.text fun v c => { c with subject := v },
    .required "aud" (Json.Decoder.list Json.Decoder.text) fun v c => { c with audience := v },
    .required "exp" Json.Decoder.int64 fun v c => { c with expiresAt := v },
    .required "nbf" Json.Decoder.int64 fun v c => { c with notBefore := v },
    .required "iat" Json.Decoder.int64 fun v c => { c with issuedAt := v }]

/-- The members in the order they are signed in. -/
def members (claims : Claims) : List (String × String) := [
  ("user_id", Json.quote claims.userId),
  ("email", Json.quote claims.email),
  ("role", Json.quote claims.role),
  ("iss", Json.quote claims.issuer),
  ("sub", Json.quote claims.subject),
  ("aud", Json.array (claims.audience.map Json.quote)),
  ("exp", Numeral.signed claims.expiresAt),
  ("nbf", Numeral.signed claims.notBefore),
  ("iat", Numeral.signed claims.issuedAt)]

/-- The compact text that is signed. -/
def toJson (claims : Claims) : String :=
  Json.objectText claims.members

end Claims
end Gatehouse
