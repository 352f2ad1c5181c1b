import Gatehouse.Json.Decoder

/-!
The header of a token: which algorithm it is signed with, and members that say more about the key,
which must be well formed but decide nothing.
-/
namespace Gatehouse

inductive Algorithm where
  | hs256 | hs384 | hs512
  | es256 | es384
  | rs256 | rs384 | rs512
  | ps256 | ps384 | ps512
  | edDSA
  deriving DecidableEq, Repr

namespace Algorithm

/-- The names of the algorithms, in the order refusals list them. -/
def names : List (String × Algorithm) := [
  ("HS256", hs256), ("HS384", hs384), ("HS512", hs512), ("ES256", es256), ("ES384", es384),
  ("RS256", rs256), ("RS384", rs384), ("RS512", rs512), ("PS256", ps256), ("PS384", ps384),
  ("PS512", ps512), ("EdDSA", edDSA)]

end Algorithm

structure TokenHeader where
  algorithm : Algorithm
  deriving DecidableEq, Repr

namespace TokenHeader

/-- The text of the header of every token that is issued. -/
def issued : String := "\x7b\"typ\":\"JWT\",\"alg\":\"HS256\"\x7d"

open Json Json.Decoder

/-- A member that may be null and is otherwise only checked. -/
def checked {α : Type} (name : String) (value : Decoder α) : Decoder.Field TokenHeader :=
  .optional name (Decoder.optional value) fun _ h => h

/-- Whether the members of a key have the text values that some family of keys needs. -/
def isKey (members : List (String × Value)) : Bool :=
  let textOf (name : String) : Option String :=
    match members.lookup name with
    | some (.text s) => some s
    | _ => none
  let has (names : List String) : Bool := names.all fun name => (textOf name).isSome
  match textOf "kty" with
  | some "EC" => has ["x", "y"] && (textOf "crv").any ["P-256", "P-384", "P-521"].contains
  | some "RSA" => has ["n", "e"]
  | some "oct" => has ["k"]
  | some "OKP" => has ["x"] && (textOf "crv").any ["Ed25519"].contains
  | _ => false

/-- An embedded key. -/
def key : Decoder Unit :=
  openRecord ⟨"Jwk", [], (), false⟩ fun () members =>
    if isKey members then .ok ()
    else .error (.custom "data did not match any variant of untagged enum AlgorithmParameters")

def shape : Shape TokenHeader where
  name := "Header"
  blank := ⟨.hs256⟩
  shortLists := false
  fields := [
    checked "typ" text,
    .required "alg" (choice Algorithm.names) fun v h => { h with algorithm := v },
    checked "cty" text,
    checked "jku" text,
    checked "jwk" key,
    checked "kid" text,
    checked "x5u" text,
    checked "x5c" (list text),
    checked "x5t" text,
    checked "x5t#S256" text]

end TokenHeader
end Gatehouse
