import Gatehouse.Proofs.Json.Reading
import Gatehouse.Proofs.Token.Framing

/-!
Which tokens are accepted. Every check of a token is about the two documents in it: an accepted token
is the token of its documents under the configured secret, and these two pass on their own.
-/
namespace Gatehouse.Token
open Utf8 Json.Decoder

variable {config : TokenConfig} {now : Int} {token : String} {claims : Claims}

/-- A header and a payload that are accepted together, apart from the signature. -/
structure Acceptable (config : TokenConfig) (now : Int) (header payload : Bytes)
    (claims : Claims) : Prop where
  headerRead : run (record TokenHeader.shape) header = .ok ⟨.hs256⟩
  payloadRead : run (record Claims.shape) payload = .ok claims
  membersRead : run checkedMembers payload = .ok ()
  checks : checkClaims config now claims = .ok ()

theorem read_part_iff {α : Type} {shape : Shape α} {text document : Bytes} {value : α} :
    readPart shape text = .ok (value, document) ↔
      text = Base64Url.encode document ∧ run (record shape) document = .ok value := by
  unfold readPart
  constructor
  · intro read
    cases decoded : Base64Url.decode text with
    | error defect => simp [decoded] at read
    | ok bytes =>
      cases parsed : run (record shape) bytes with
      | error fault => simp [decoded, parsed] at read
      | ok known =>
        simp only [decoded, parsed, Except.ok.injEq, Prod.mk.injEq] at read
        obtain ⟨rfl, rfl⟩ := read
        exact ⟨Base64Url.decode_iff.mp decoded, parsed⟩
  · rintro ⟨rfl, parsed⟩
    simp only [Base64Url.decode_encode, parsed]

theorem read_claims_iff {text : Bytes} :
    readClaims text = .ok claims ↔ ∃ document, text = Base64Url.encode document ∧
      run (record Claims.shape) document = .ok claims ∧ run checkedMembers document = .ok () := by
  unfold readClaims
  rw [bind_ok_iff]
  constructor
  · rintro ⟨⟨known, document⟩, part, checked⟩
    obtain ⟨whole, parsed⟩ := read_part_iff.mp part
    cases members : run checkedMembers document with
    | error fault => simp [members] at checked
    | ok _ =>
      simp only [members] at checked
      cases checked
      exact ⟨document, whole, parsed, members⟩
  · rintro ⟨document, whole, parsed, members⟩
    refine ⟨(claims, document), read_part_iff.mpr ⟨whole, parsed⟩, ?_⟩
    simp only [members]
    rfl

/-- A token of documents that can be read is judged by its claims alone. -/
theorem validate_framed {header payload : Bytes}
    (readHeader : run (record TokenHeader.shape) header = .ok ⟨.hs256⟩)
    (readPayload : run (record Claims.shape) payload = .ok claims)
    (members : run checkedMembers payload = .ok ()) :
    validate config now (framed config.secret header payload) =
      (checkClaims config now claims).map fun _ => claims := by
  have known : (readPart TokenHeader.shape (Base64Url.encode header)).mapError .invalid =
      (.ok (⟨.hs256⟩, header) : Except TokenError (TokenHeader × Bytes)) :=
    map_error_ok_iff.mpr (read_part_iff.mpr ⟨rfl, readHeader⟩)
  have stated : (readClaims (Base64Url.encode payload)).mapError .invalid =
      (.ok claims : Except TokenError Claims) :=
    map_error_ok_iff.mpr (read_claims_iff.mpr ⟨payload, rfl, readPayload, members⟩)
  simp only [validate, parts_of_framed, known, bind, Except.bind, ne_eq,
    not_true_eq_false, if_false, ← encode_message, stated]
  cases checkClaims config now claims <;> rfl

/-- Exactly the tokens of acceptable documents under the configured secret are accepted. -/
theorem validate_ok_iff :
    validate config now token = .ok claims ↔ ∃ header payload,
      token = framed config.secret header payload ∧
        Acceptable config now header payload claims := by
  constructor
  · intro accepted
    unfold validate at accepted
    cases cut : parts? token with
    | none => simp [cut] at accepted
    | some parts =>
      simp only [cut, bind_ok_iff, map_error_ok_iff] at accepted
      obtain ⟨⟨known, header⟩, headerPart, accepted⟩ := accepted
      obtain ⟨headerText, headerRead⟩ := read_part_iff.mp headerPart
      split_ifs at accepted with foreign forged
      obtain ⟨stated, payloadPart, accepted⟩ := bind_ok_iff.mp accepted
      obtain ⟨payload, payloadText, payloadRead, membersRead⟩ :=
        read_claims_iff.mp (map_error_ok_iff.mp payloadPart)
      obtain ⟨_, checks, same⟩ := bind_ok_iff.mp accepted
      cases same
      have algorithm : known = ⟨.hs256⟩ := congrArg TokenHeader.mk (not_not.mp foreign)
      refine ⟨header, payload, encode_injective ?_, algorithm ▸ headerRead, payloadRead,
        membersRead, checks⟩
      rw [(parts_iff.mp cut).1, not_not.mp forged, headerText, payloadText, encode_framed,
        encode_message]
  · rintro ⟨header, payload, rfl, acceptable⟩
    rw [validate_framed acceptable.headerRead acceptable.payloadRead acceptable.membersRead,
      acceptable.checks]
    rfl

end Gatehouse.Token
