import Gatehouse.Token.Service
import Gatehouse.Proofs.Codec.Base64Url
import Gatehouse.Proofs.Text.Utf8

/-!
The dots of a token. Parts are written in an alphabet without dots, so a token falls apart into the
parts it was put together from, and in no other way.
-/
namespace Gatehouse.Token
open Utf8

/-! ## Cutting at the last dot -/

private theorem behind_last_dot {front behind : Bytes} (noDot : dot ∉ behind) :
    (((front ++ dot :: behind).reverse).takeWhile (· ≠ dot)).reverse = behind := by
  have plain : ∀ b ∈ behind.reverse, decide (b ≠ dot) := by
    intro b member
    exact decide_eq_true fun same => noDot (same ▸ List.mem_reverse.mp member)
  have stop : (dot :: front.reverse).takeWhile (· ≠ dot) = [] := by simp
  rw [List.reverse_append, List.reverse_cons, List.append_assoc, List.singleton_append,
    List.takeWhile_append_of_pos plain, stop, List.append_nil, List.reverse_reverse]

theorem split_last_at_dot {front behind : Bytes} (noDot : dot ∉ behind) :
    splitLast? (front ++ dot :: behind) = some (front, behind) := by
  have different : ¬ behind.length = (front ++ dot :: behind).length := by
    simp only [List.length_append, List.length_cons]
    omega
  have inFront : (front ++ dot :: behind).length - behind.length - 1 = front.length := by
    simp only [List.length_append, List.length_cons]
    omega
  simp only [splitLast?, behind_last_dot noDot, different, inFront, if_false, List.take_left]

theorem split_last_iff {text front behind : Bytes} :
    splitLast? text = some (front, behind) ↔ text = front ++ dot :: behind ∧ dot ∉ behind := by
  constructor
  · intro cut
    by_cases held : dot ∈ text
    · obtain ⟨after, before, shape, noDot⟩ :=
        List.eq_append_cons_of_mem (List.mem_reverse.mpr held)
      have text_shape : text = before.reverse ++ dot :: after.reverse := by
        rw [← List.reverse_reverse text, shape]
        simp
      have noDot : dot ∉ after.reverse := fun member => noDot (List.mem_reverse.mp member)
      rw [text_shape, split_last_at_dot noDot] at cut
      cases cut
      exact ⟨text_shape, noDot⟩
    · have plain : ∀ b ∈ text.reverse, decide (b ≠ dot) := by
        intro b member
        exact decide_eq_true fun same => held (same ▸ List.mem_reverse.mp member)
      simp only [splitLast?, List.takeWhile_eq_self_iff.mpr plain, List.reverse_reverse,
        if_true] at cut
      contradiction
  · rintro ⟨rfl, noDot⟩
    exact split_last_at_dot noDot

/-- The second and the third part have no dots; the first may have some. -/
theorem parts_iff {token : String} {parts : Parts} :
    parts? token = some parts ↔
      encode token = parts.header ++ dot :: (parts.payload ++ dot :: parts.signature) ∧
        dot ∉ parts.payload ∧ dot ∉ parts.signature := by
  unfold parts?
  constructor
  · intro cut
    cases last : splitLast? (encode token) with
    | none => simp [last] at cut
    | some outer =>
      cases first : splitLast? outer.1 with
      | none => simp [last, first] at cut
      | some inner =>
        simp only [last, first, Option.bind_eq_bind, Option.bind_some, Option.pure_def,
          Option.some.injEq] at cut
        subst cut
        obtain ⟨whole, noDot⟩ := split_last_iff.mp last
        obtain ⟨message, noDotBefore⟩ := split_last_iff.mp first
        refine ⟨?_, noDotBefore, noDot⟩
        rw [whole, message, List.append_assoc, List.cons_append]
  · rintro ⟨whole, noDotBefore, noDot⟩
    have outer : splitLast? (encode token) =
        some (parts.header ++ dot :: parts.payload, parts.signature) := by
      rw [whole, ← List.cons_append, ← List.append_assoc]
      exact split_last_at_dot noDot
    simp only [outer, split_last_at_dot noDotBefore, Option.bind_eq_bind, Option.bind_some,
      Option.pure_def]

/-! ## Parts in base 64 -/

theorem base64_no_dot (bytes : Bytes) : dot ∉ Base64Url.encode bytes := by
  intro member
  obtain ⟨n, small, same⟩ := Base64Url.encode_symbols bytes dot member
  exact (Base64Url.symbol_is_plain n small).2.2 same.symm

theorem encode_part (bytes : Bytes) : encode (part bytes) = Base64Url.encode bytes := by
  refine encode_ascii fun b member => ?_
  obtain ⟨n, small, rfl⟩ := Base64Url.encode_symbols bytes b member
  exact (Base64Url.symbol_is_plain n small).1

theorem encode_dot : encode "." = [dot] := encode_of_list ['.']

/-- The text that is signed: header and claims with the dot between them. -/
def message (header payload : Bytes) : String := part header ++ "." ++ part payload

/-- The token of two documents under a secret. -/
def framed (secret : String) (header payload : Bytes) : String :=
  message header payload ++ "." ++ signature secret (message header payload)

theorem encode_message (header payload : Bytes) : encode (message header payload) =
    Base64Url.encode header ++ dot :: Base64Url.encode payload := by
  rw [message, encode_append, encode_append, encode_part, encode_part, encode_dot,
    List.append_assoc]
  rfl

theorem encode_framed (secret : String) (header payload : Bytes) :
    encode (framed secret header payload) = Base64Url.encode header ++ dot ::
      (Base64Url.encode payload ++ dot :: Base64Url.encode
        (Sha256.keyed (encode secret) (encode (message header payload)))) := by
  rw [framed, encode_append, encode_append, signature, encode_part, encode_message, encode_dot]
  simp

/-- The token of two documents falls apart into their texts and the signature. -/
theorem parts_of_framed (secret : String) (header payload : Bytes) :
    parts? (framed secret header payload) = some ⟨Base64Url.encode header, Base64Url.encode payload,
      Base64Url.encode (Sha256.keyed (encode secret) (encode (message header payload)))⟩ :=
  parts_iff.mpr ⟨encode_framed secret header payload, base64_no_dot _, base64_no_dot _⟩

end Gatehouse.Token
