import Gatehouse.Proofs.Json.Agreement
import Gatehouse.Proofs.Token.RoundTrip

/-!
No forged token is accepted. An accepted token is three base 64 texts with two dots between them; the
last is the keyed digest of what stands before it, so the other two leave no choice for it. Its header
names the one algorithm that is checked, and its claims are for this service and for this time.
-/
namespace Gatehouse
open Utf8 Json Json.Decoder

/-! ## The algorithm that a header names -/

namespace TokenHeader

/-- A document names an algorithm if it is a header as soon as that algorithm is the one known. -/
def Names (document : Bytes) (name : String) : Prop :=
  ∃ header, run (record (knowing [(name, .hs256)])) document = .ok header

/-- Once the algorithm has been read, both readings know it by one name. -/
private def SameName (name : String) (done : List String) (header other : TokenHeader) : Prop :=
  "alg" ∈ done → ∃ text, Algorithm.names.lookup text = some header.algorithm ∧
    [(name, Algorithm.hs256)].lookup text = some other.algorithm

private theorem checked_agree {α : Type} {member name : String} {value : Decoder α}
    (different : member ≠ "alg") :
    Agree (SameName name) (checked member value) (checked member value) where
  name := rfl
  reads := by
    intro depth c afterLeft afterRight putLeft putRight readLeft readRight
    cases Except.ok.inj (readLeft.symm.trans readRight)
    obtain ⟨⟨_, after⟩, _, put⟩ := bind_ok_iff.mp readLeft
    cases put
    refine ⟨rfl, fun done header other same member => same ?_⟩
    exact (List.mem_cons.mp member).resolve_left different.symm

private theorem algorithm_agree (name : String) :
    Agree (SameName name)
      (.required "alg" (choice Algorithm.names) fun v h => { h with algorithm := v })
      (.required "alg" (choice [(name, .hs256)]) fun v h => { h with algorithm := v }) where
  name := rfl
  reads := by
    intro depth c afterLeft afterRight putLeft putRight readLeft readRight
    obtain ⟨⟨a, _⟩, choiceLeft, putLeft⟩ := bind_ok_iff.mp readLeft
    obtain ⟨⟨b, _⟩, choiceRight, putRight⟩ := bind_ok_iff.mp readRight
    obtain ⟨rfl, text, foundLeft, foundRight⟩ := choice_agree choiceLeft choiceRight
    cases putLeft
    cases putRight
    exact ⟨rfl, fun _ _ _ _ _ => ⟨text, foundLeft, foundRight⟩⟩

private theorem fields_agree (name : String) :
    List.Forall₂ (Agree (SameName name)) shape.fields (knowing [(name, .hs256)]).fields := by
  refine List.forall₂_map_right_iff.mpr (List.forall₂_same.mpr fun field member => ?_)
  simp only [shape, List.mem_cons, List.not_mem_nil, or_false] at member
  rcases member with rfl | rfl | rfl | rfl | rfl | rfl | rfl | rfl | rfl | rfl
  · exact checked_agree (by decide)
  · exact algorithm_agree name
  · exact checked_agree (by decide)
  · exact checked_agree (by decide)
  · exact checked_agree (by decide)
  · exact checked_agree (by decide)
  · exact checked_agree (by decide)
  · exact checked_agree (by decide)
  · exact checked_agree (by decide)
  · exact checked_agree (by decide)

/-- The algorithm of a header is the one that it names. -/
theorem named_algorithm {document : Bytes} {header : TokenHeader} {name : String}
    (read : run (record shape) document = .ok header) (named : Names document name) :
    Algorithm.names.lookup name = some header.algorithm := by
  obtain ⟨other, readOther⟩ := named
  obtain ⟨_, started⟩ := run_ok read
  obtain ⟨_, startedOther⟩ := run_ok readOther
  obtain ⟨done, same, required⟩ := record_agree (fields_agree name) rfl
    (fun member => absurd member List.not_mem_nil) started startedOther
  have algorithmRead : "alg" ∈ done := required (.required "alg" (choice Algorithm.names)
    fun v h => { h with algorithm := v }) (by simp [shape]) rfl
  obtain ⟨text, found, foundOther⟩ := same algorithmRead
  obtain rfl : text = name := by
    by_contra different
    rw [List.lookup_cons, beq_eq_false_iff_ne.mpr different] at foundOther
    contradiction
  exact found

end TokenHeader

/-! ## Accepted tokens -/

namespace Token

variable {config : TokenConfig} {token : String} {claims : Claims}

private theorem only_name : ∀ entry ∈ Algorithm.names, entry.2 = .hs256 → entry.1 = "HS256" := by
  decide

theorem part_no_dot (bytes : Bytes) : '.' ∉ (part bytes).toList := by
  intro member
  rw [part, String.toList_ofList] at member
  obtain ⟨b, held, same⟩ := List.mem_map.mp member
  obtain ⟨n, small, rfl⟩ := Base64Url.encode_symbols bytes b held
  have number := ascii_number _ (Base64Url.symbol_is_plain n small).1
  rw [same] at number
  exact (Base64Url.symbol_is_plain n small).2.2 (UInt8.toNat_inj.mp number.symm)

/-- Texts without dots in front of the first dot are the same if the whole texts are. -/
private theorem front_of_dot {front other behind others : Bytes} (noDot : dot ∉ front)
    (noDotOther : dot ∉ other) (same : front ++ dot :: behind = other ++ dot :: others) :
    front = other ∧ behind = others := by
  have stops {text rest : Bytes} (noDot : dot ∉ text) :
      (text ++ dot :: rest).takeWhile (· ≠ dot) = text := by
    have plain : ∀ b ∈ text, decide (b ≠ dot) := fun b member =>
      decide_eq_true fun same => noDot (same ▸ member)
    rw [List.takeWhile_append_of_pos plain]
    simp
  have fronts := congrArg (List.takeWhile (· ≠ dot)) same
  rw [stops noDot, stops noDotOther] at fronts
  subst fronts
  exact ⟨rfl, List.cons_inj_right _ |>.mp (List.append_cancel_left same)⟩

/-- The signature of an accepted token is the only one that its header and payload can have. -/
theorem signature_unique {header payload : Bytes} {signature' : String} {later : Int}
    (accepted : validate config later (message header payload ++ "." ++ signature') = .ok claims) :
    signature' = signature config.secret (message header payload) := by
  obtain ⟨otherHeader, otherPayload, framing, -⟩ := validate_ok_iff.mp accepted
  have bytes := congrArg encode framing
  rw [framed, encode_append, encode_append, encode_append _ (signature _ _), encode_append _ ".",
    encode_message, encode_message] at bytes
  simp only [List.append_assoc, List.cons_append] at bytes
  obtain ⟨headers, behind⟩ := front_of_dot (base64_no_dot header) (base64_no_dot otherHeader) bytes
  have shape (rest : String) : encode "." ++ encode rest = dot :: encode rest :=
    congrArg (· ++ encode rest) (encode_of_list ['.'])
  rw [shape, shape] at behind
  obtain ⟨payloads, signatures⟩ :=
    front_of_dot (base64_no_dot payload) (base64_no_dot otherPayload) behind
  have messages : encode (message otherHeader otherPayload) = encode (message header payload) := by
    rw [encode_message, encode_message, headers, payloads]
  rw [encode_injective signatures, encode_injective messages]

/-- An accepted token, taken apart: its two documents, and what is known of them. -/
structure Authentic (config : TokenConfig) (now : Nat) (token : String) (claims : Claims)
    (header payload : Bytes) : Prop where
  framing : token = part header ++ "." ++ part payload ++ "." ++
    signature config.secret (part header ++ "." ++ part payload)
  dots : '.' ∉ (part header).toList ∧ '.' ∉ (part payload).toList ∧
    '.' ∉ (signature config.secret (part header ++ "." ++ part payload)).toList
  headerRead : run (record TokenHeader.shape) header = .ok ⟨.hs256⟩
  algorithm : ∀ name, TokenHeader.Names header name → name = "HS256"
  payloadRead : run (record Claims.shape) payload = .ok claims
  issuer : claims.issuer = config.issuer
  audience : config.audience ∈ claims.audience
  notExpired : now ≤ claims.expiresAt
  started : claims.notBefore ≤ now
  /-- No other signature is accepted with these two parts, at any time. -/
  unforgeable : ∀ (later : Int) (other : String) (others : Claims),
    validate config later (part header ++ "." ++ part payload ++ "." ++ other) = .ok others →
      other = signature config.secret (part header ++ "." ++ part payload)

/-- Validation is sound for every string. -/
theorem accepted_is_authentic {now : Nat} (accepted : validate config now token = .ok claims) :
    ∃ header payload, Authentic config now token claims header payload := by
  obtain ⟨header, payload, framing, acceptable⟩ := validate_ok_iff.mp accepted
  have checks := acceptable.checks
  unfold checkClaims at checks
  split_ifs at checks with absent expired early foreign elsewhere
  refine ⟨header, payload, {
    framing := framing
    dots := ⟨part_no_dot header, part_no_dot payload, part_no_dot _⟩
    headerRead := acceptable.headerRead
    algorithm := fun name named => ?_
    payloadRead := acceptable.payloadRead
    issuer := not_not.mp foreign
    audience := by simpa using elsewhere
    notExpired := by omega
    started := by omega
    unforgeable := fun later other others again => signature_unique again }⟩
  obtain ⟨before, after, known, -⟩ :=
    List.lookup_eq_some_iff.mp (TokenHeader.named_algorithm acceptable.headerRead named)
  have member : (name, Algorithm.hs256) ∈ Algorithm.names := by
    rw [known]
    exact List.mem_append_right before List.mem_cons_self
  exact only_name _ member rfl

/-- A token in the middle of its life. -/
theorem accepted_is_authentic_issued :
    let config : TokenConfig := ⟨"issuer", "audience", "secret", 60, 60⟩
    let token := issue config (1700000000 : Nat) "user" "u@example" "admin" 60
    let claims : Claims := ⟨"user", "u@example", "admin", "issuer", "user", ["audience"],
      1700000060, 1700000000, 1700000000⟩
    validate config (1700000030 : Nat) token = .ok claims ∧
      ∃ header payload, Authentic config 1700000030 token claims header payload := by
  intro config token claims
  have accepted : validate config (1700000030 : Nat) token = .ok claims :=
    (validate_issued config "user" "u@example" "admin" 60 (by decide) 1700000030).trans rfl
  exact ⟨accepted, accepted_is_authentic accepted⟩

end Token
end Gatehouse
