import Gatehouse.Proofs.Token.Soundness

/-! Looking into a token. To check a token and to look into it are two uses of one decoder, which takes the
token apart, reads its two documents, and insists on the way on as much as it is told to. A decoder that
insists on nothing has no use for the secret, the clock and the signature, and whatever any other one
accepts it reads as the same claims. -/
namespace Gatehouse.Token
open Utf8

/-- What a decoder insists on, apart from documents that can be read. -/
structure Scrutiny where
  /-- The one algorithm, and the signature that belongs to it. -/
  signature : Bool
  /-- That the end of the token is stated. -/
  stated : Bool
  expiry : Bool
  start : Bool
  issuer : Option String
  audience : Option String

namespace Scrutiny

/-- All that a service insists on before it accepts a token. -/
def full (config : TokenConfig) : Scrutiny :=
  ⟨true, true, true, true, some config.issuer, some config.audience⟩

/-- Nothing at all. -/
def none : Scrutiny := ⟨false, false, false, false, .none, .none⟩

/-- The checks of claims that are insisted on. A time before 1970 counts as not stated. -/
def check (scrutiny : Scrutiny) (now : Int) (claims : Claims) : Except TokenError Unit :=
  if scrutiny.stated ∧ claims.expiresAt < 0 then .error (.invalid (.missingClaim "exp"))
  else if scrutiny.expiry ∧ 0 ≤ claims.expiresAt ∧ claims.expiresAt < now then .error .expired
  else if scrutiny.start ∧ 0 ≤ claims.notBefore ∧ now < claims.notBefore then
    .error (.invalid .tooEarly)
  else if ∃ issuer ∈ scrutiny.issuer, claims.issuer ≠ issuer then .error (.invalid .issuer)
  else if ∃ audience ∈ scrutiny.audience, audience ∉ claims.audience then
    .error (.invalid .audience)
  else .ok ()

end Scrutiny

/-- Decodes a token with a secret, at a time, under some scrutiny. -/
def decode (scrutiny : Scrutiny) (secret : String) (now : Int) (token : String) :
    Except TokenError Claims := do
  let some parts := parts? token | .error (.invalid .form)
  let (header, _) ← (readPart TokenHeader.shape parts.header).mapError .invalid
  if scrutiny.signature ∧ header.algorithm ≠ .hs256 then .error (.invalid .algorithm)
  else
    let message := parts.header ++ dot :: parts.payload
    let expected := Base64Url.encode (Sha256.keyed (encode secret) message)
    if scrutiny.signature ∧ parts.signature ≠ expected then .error (.invalid .signature)
    else
      let claims ← (readClaims parts.payload).mapError .invalid
      scrutiny.check now claims
      return claims

variable {config : TokenConfig} {now : Int} {claims : Claims} {scrutiny : Scrutiny}
  {secret token : String}

/-! ## The two uses -/

theorem check_full (config : TokenConfig) (now : Int) (claims : Claims) :
    (Scrutiny.full config).check now claims = checkClaims config now claims := by
  unfold Scrutiny.check Scrutiny.full checkClaims
  by_cases absent : claims.expiresAt < 0
  · simp [absent]
  · have stated : 0 ≤ claims.expiresAt := Int.not_lt.mp absent
    simp [absent, stated]

theorem check_none (now : Int) (claims : Claims) : Scrutiny.none.check now claims = .ok () := by
  simp [Scrutiny.check, Scrutiny.none]

/-- The check of a token is its decoding under full scrutiny. -/
theorem decode_full (config : TokenConfig) (now : Int) (token : String) :
    decode (.full config) config.secret now token = validate config now token := by
  have insists : (Scrutiny.full config).signature = true := rfl
  unfold decode validate
  cases parts? token with
  | none => rfl
  | some parts => simp only [check_full, insists, true_and]

/-- Looking into a token is its decoding under no scrutiny, with any secret and at any time. -/
theorem decode_none (secret : String) (now : Int) (token : String) :
    decode .none secret now token = peekClaims token := by
  have indifferent : Scrutiny.none.signature = false := rfl
  unfold decode peekClaims
  cases parts? token with
  | none => rfl
  | some parts =>
    simp only [check_none, indifferent, Bool.false_eq_true, false_and, if_false]
    cases (readPart TokenHeader.shape parts.header).mapError TokenError.invalid with
    | error refusal => rfl
    | ok header =>
      simp only [bind, Except.bind]
      cases (readClaims parts.payload).mapError TokenError.invalid with
      | error refusal => rfl
      | ok claims => rfl

/-- Whatever the scrutiny, an accepted token has the claims that are found without it. -/
theorem peek_of_decoded (accepted : decode scrutiny secret now token = .ok claims) :
    peekClaims token = .ok claims := by
  unfold decode at accepted
  unfold peekClaims
  cases cut : parts? token with
  | none => simp [cut] at accepted
  | some parts =>
    simp only [cut, bind_ok_iff] at accepted ⊢
    obtain ⟨header, headerRead, accepted⟩ := accepted
    split_ifs at accepted with foreign forged
    obtain ⟨stated, payloadRead, accepted⟩ := bind_ok_iff.mp accepted
    obtain ⟨_, _, same⟩ := bind_ok_iff.mp accepted
    cases same
    exact ⟨header, headerRead, payloadRead⟩

/-- Looking into a token can only fail because it is ill formed. -/
theorem peek_refusal {error : TokenError} (refused : peekClaims token = .error error) :
    ∃ defect, error = .invalid defect := by
  unfold peekClaims at refused
  cases cut : parts? token with
  | none =>
    simp only [cut] at refused
    cases refused
    exact ⟨_, rfl⟩
  | some parts =>
    simp only [cut, bind_error_iff, map_error_error_iff] at refused
    rcases refused with ⟨defect, _, rfl⟩ | ⟨_, _, defect, _, rfl⟩
    · exact ⟨defect, rfl⟩
    · exact ⟨defect, rfl⟩

/-! ## Other signatures -/

/-- The text behind the last dot is the signature. -/
private theorem parts_behind (front : String) {tail : String} (noDot : '.' ∉ tail.toList) :
    parts? (front ++ "." ++ tail) =
      (splitLast? (encode front)).map fun (header, payload) => ⟨header, payload, encode tail⟩ := by
  have whole : encode (front ++ "." ++ tail) = encode front ++ dot :: encode tail := by
    rw [encode_append, encode_append, encode_dot]
    simp
  have noDotByte : dot ∉ encode tail := fun member => noDot (mem_of_ascii_byte (by decide) member)
  unfold parts?
  rw [whole, split_last_at_dot noDotByte]
  simp only [Option.bind_eq_bind, Option.bind_some]
  cases splitLast? (encode front) with
  | none => rfl
  | some cut => rfl

/-- Another signature makes no difference to what is found. -/
theorem peek_other_signature {front tail other : String} (noDot : '.' ∉ tail.toList)
    (noDotEither : '.' ∉ other.toList) :
    peekClaims (front ++ "." ++ other) = peekClaims (front ++ "." ++ tail) := by
  unfold peekClaims
  rw [parts_behind front noDot, parts_behind front noDotEither]
  cases splitLast? (encode front) with
  | none => rfl
  | some cut => rfl

/-- Looking into a token agrees with every check of it. A decoder that insists on nothing does not depend
on the secret and the time it is given, and whatever some service accepts at some time it reads as the
same claims. It reads the same for every other signature, and where it fails the token is ill formed,
never too old. -/
theorem inspection_agrees (secret : String) (now : Int) (token : String) :
    decode .none secret now token = peekClaims token ∧
      (∀ config checked claims, decode (.full config) config.secret checked token =
          validate config checked token ∧
        (validate config checked token = .ok claims → peekClaims token = .ok claims)) ∧
      (∀ front tail other, token = front ++ "." ++ tail → '.' ∉ tail.toList → '.' ∉ other.toList →
        peekClaims (front ++ "." ++ other) = peekClaims token) ∧
      ∀ error, peekClaims token = .error error → ∃ defect, error = .invalid defect := by
  refine ⟨decode_none secret now token, fun config checked claims => ?_, ?_,
    fun error => peek_refusal⟩
  · have checking := decode_full config checked token
    refine ⟨checking, fun accepted => ?_⟩
    rw [← checking] at accepted
    exact peek_of_decoded accepted
  · rintro front tail other rfl noDot noDotEither
    exact peek_other_signature noDot noDotEither

/-- A token that one service has accepted, looked into elsewhere with its signature taken off. -/
theorem inspection_agrees_unsigned :
    let config : TokenConfig := ⟨"issuer", "audience", "secret", 60, 60⟩
    let token := issue config (1700000000 : Nat) "user" "u@example" "admin" 60
    let claims : Claims := ⟨"user", "u@example", "admin", "issuer", "user", ["audience"],
      1700000060, 1700000000, 1700000000⟩
    validate config (1700000030 : Nat) token = .ok claims ∧
      decode .none "other" 1800000000 token = .ok claims ∧
      ∃ front tail, token = front ++ "." ++ tail ∧ peekClaims (front ++ "." ++ "") = .ok claims := by
  intro config token claims
  have accepted : validate config (1700000030 : Nat) token = .ok claims :=
    (validate_issued config "user" "u@example" "admin" 60 (by decide) 1700000030).trans rfl
  obtain ⟨looked, checks, signatures, _⟩ := inspection_agrees "other" 1800000000 token
  have found := (checks config _ claims).2 accepted
  have unsigned := signatures _ _ "" rfl (part_no_dot _) (by decide)
  exact ⟨accepted, looked.trans found, _, _, rfl, unsigned.trans found⟩

end Gatehouse.Token
