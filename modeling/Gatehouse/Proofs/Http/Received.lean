import Gatehouse.Http.Wire

/-! What is known of a request that comes from the wire, whatever its sender does. Its method is a token
and its path the path of a target. The address that it counts for is announced by its headers, where any
text may stand, or else it is the transport address, whose text has no room for a path. -/
namespace Gatehouse

/-! ## Requests from the wire -/

/-- A request as it is read from the wire: its method is a token, and its path that of a target. -/
structure Request.Received (request : Request) : Prop where
  method : HttpToken.isToken request.method
  path : ∃ target, request.path = Target.path target

namespace HttpToken

theorem token_char {text : String} (token : isToken text) {c : Char} (member : c ∈ text.toList) :
    isTokenChar c :=
  List.all_eq_true.mp (Bool.and_eq_true_iff.mp token).2 c member

/-- A token has a first character. -/
theorem token_head {text : String} (token : isToken text) :
    ∃ c rest, text.toList = c :: rest ∧ isTokenChar c := by
  have some_text : text.toList ≠ [] := by
    intro empty
    rw [String.toList_eq_nil_iff.mp empty] at token
    cases token
  obtain ⟨c, rest, written⟩ := List.exists_cons_of_ne_nil some_text
  refine ⟨c, rest, written, token_char token ?_⟩
  rw [written]
  exact List.mem_cons_self

/-- Colons and slashes are no part of tokens. -/
theorem colon_not_token : isTokenChar ':' = false := by decide

theorem slash_not_token : isTokenChar '/' = false := by decide

end HttpToken

namespace Wire

/-- Whatever is read from the wire is such a request. -/
theorem request_received {head : List Bytes} {body : Bytes} {peer : Option SocketAddress}
    {request : Request} (read : request? head body peer = some request) : request.Received := by
  unfold request? at read
  obtain ⟨line, _, read⟩ := Option.bind_eq_some_iff.mp read
  obtain ⟨⟨method, target⟩, cut, read⟩ := Option.bind_eq_some_iff.mp read
  obtain ⟨fields, _, read⟩ := Option.bind_eq_some_iff.mp read
  cases read
  refine ⟨?_, target, rfl⟩
  unfold requestLine? at cut
  obtain ⟨text, _, cut⟩ := Option.bind_eq_some_iff.mp cut
  split at cut
  · split at cut
    · rename_i known
      cases cut
      exact (Bool.and_eq_true_iff.mp known).1
    · cases cut
  · cases cut

end Wire

namespace Target

private theorem stops_at {stops text rest : List Char} {c : Char}
    (behind : text.drop (upTo stops text).length = c :: rest) : c ∈ stops := by
  unfold upTo at behind
  induction text with
  | nil => cases behind
  | cons first others ih =>
    rw [List.takeWhile_cons] at behind
    split at behind
    · exact ih behind
    · rename_i stopped
      cases behind
      simpa using stopped

/-- A path starts with a slash, unless it is a lone star or there is none. -/
theorem path_starts (target : String) :
    path target = "" ∨ path target = "*" ∨ ∃ rest, (path target).toList = '/' :: rest := by
  generalize found : path target = text
  unfold path at found
  simp only [] at found
  split at found
  · rename_i starts
    right; right
    rw [← found, starts, String.toList_ofList]
    exact ⟨_, rfl⟩
  · exact .inr (.inl found.symm)
  · split at found
    · exact .inl found.symm
    · right; right
      split at found
      · rw [← found]
        exact ⟨[], rfl⟩
      · rename_i rest _ path some_left
        rw [← found, String.toList_ofList]
        -- what follows the authority starts with one of the characters that end it
        cases behind : rest.drop (upTo ['/', '?', '#'] rest).length with
        | nil =>
          rw [behind] at some_left
          exact absurd rfl some_left
        | cons c others =>
          have stopped := stops_at behind
          rw [behind] at some_left
          simp only [List.mem_cons, List.not_mem_nil, or_false] at stopped
          rcases stopped with rfl | rfl | rfl
          · exact ⟨_, rfl⟩
          · exact absurd rfl some_left
          · exact absurd rfl some_left

end Target

namespace Request.Received

variable {request : Request}

theorem method_no_colon (received : request.Received) : ':' ∉ request.method.toList := by
  intro member
  have token := HttpToken.token_char received.method member
  rw [HttpToken.colon_not_token] at token
  cases token

/-- A path with a colon in it starts with a slash. -/
theorem path_slash (received : request.Received) (colon : ':' ∈ request.path.toList) :
    ∃ rest, request.path.toList = '/' :: rest := by
  obtain ⟨target, path⟩ := received.path
  rw [path] at colon ⊢
  rcases Target.path_starts target with none | star | starts
  · rw [none] at colon
    cases colon
  · rw [star] at colon
    simp at colon
  · exact starts

end Request.Received

/-! ## Transport addresses -/

namespace Numeral

private theorem decimal_no_slash (n : Nat) : '/' ∉ (decimal n).toList := by
  intro member
  rw [decimal, Nat.toString_eq_ofList_toDigits, String.toList_ofList] at member
  cases Nat.isDigit_of_mem_toDigits (by decide) (by decide) member

private theorem digits_onto_chars {base bound n : Nat} {tail : List Char} {c : Char}
    (positive : 0 < base) (member : c ∈ digitsOnto base bound n tail) :
    c ∈ tail ∨ ∃ k < base, c = Nat.digitChar k := by
  induction bound generalizing n tail with
  | zero => exact .inl member
  | succ bound ih =>
    unfold digitsOnto at member
    have own (written : c ∈ Nat.digitChar (n % base) :: tail) :
        c ∈ tail ∨ ∃ k < base, c = Nat.digitChar k := by
      rcases List.mem_cons.mp written with here | there
      · exact .inr ⟨n % base, Nat.mod_lt n positive, here⟩
      · exact .inl there
    simp only [] at member
    split at member
    · exact own member
    · rcases ih member with written | more
      · exact own written
      · exact .inr more

private theorem hex_no_slash (n : Nat) : '/' ∉ (hex n).toList := by
  have digits : ∀ k < 16, '/' ≠ Nat.digitChar k := by decide
  intro member
  rw [hex, String.toList_ofList] at member
  rcases digits_onto_chars (by decide) member with empty | ⟨k, small, same⟩
  · cases empty
  · exact digits k small same

end Numeral

namespace SocketAddress

private theorem joined_chars {separator : String} {parts : List String} {c : Char}
    (member : c ∈ (separator.intercalate parts).toList) :
    c ∈ separator.toList ∨ ∃ part ∈ parts, c ∈ part.toList := by
  rw [String.toList_intercalate] at member
  induction parts with
  | nil => cases member
  | cons part rest ih =>
    cases rest with
    | nil =>
      rw [List.map_singleton, List.intercalate_singleton] at member
      exact .inr ⟨part, List.mem_cons_self, member⟩
    | cons next others =>
      rw [List.map_cons, List.map_cons, List.intercalate_cons_cons, List.append_assoc,
        List.mem_append, List.mem_append] at member
      rcases member with own | between | behind
      · exact .inr ⟨part, List.mem_cons_self, own⟩
      · exact .inl between
      · rcases ih behind with between | ⟨other, listed, inside⟩
        · exact .inl between
        · exact .inr ⟨other, List.mem_cons_of_mem part listed, inside⟩

private theorem octets_no_slash (octets : List Nat) : '/' ∉ (octetsText octets).toList := by
  intro member
  rcases joined_chars member with between | ⟨part, listed, inside⟩
  · simp at between
  · obtain ⟨n, _, rfl⟩ := List.mem_map.mp listed
    exact Numeral.decimal_no_slash n inside

private theorem words_no_slash (words : List Nat) : '/' ∉ (wordsText words).toList := by
  intro member
  rcases joined_chars member with between | ⟨part, listed, inside⟩
  · simp at between
  · obtain ⟨n, _, rfl⟩ := List.mem_map.mp listed
    exact Numeral.hex_no_slash n inside

/-- The text of a transport address has no slash. -/
theorem text_no_slash (address : SocketAddress) : '/' ∉ address.toText.toList := by
  cases address with
  | v4 octets port =>
    simp [toText, octets_no_slash, Numeral.decimal_no_slash]
  | v6 words zone port =>
    have inner : '/' ∉ (v6Text words).toList := by
      unfold v6Text
      split
      · simp [octets_no_slash]
      · simp only []
        split
        · simp [words_no_slash]
        · exact words_no_slash words
    have zoned : '/' ∉ (if zone = 0 then "" else "%" ++ Numeral.decimal zone).toList := by
      split
      · simp
      · simp [Numeral.decimal_no_slash]
    simp [toText, inner, zoned, Numeral.decimal_no_slash]

end SocketAddress

/-- The address that the headers announce counts, and without one the transport address. -/
theorem client_address_or (headers : Headers) (peer : Option SocketAddress) :
    clientAddress headers peer =
      (clientAddress headers none).or (peer.map SocketAddress.toText) := by
  unfold clientAddress
  simp only [Option.map_none, Option.or_none, Option.or_assoc]

/-- An address with a slash in it is one that the headers announce. -/
theorem announced_of_slash {headers : Headers} {peer : Option SocketAddress} {address : String}
    (counts : clientAddress headers peer = some address) (slash : '/' ∈ address.toList) :
    clientAddress headers none = some address := by
  rw [client_address_or, Option.or_eq_some_iff] at counts
  rcases counts with announced | ⟨_, transport⟩
  · exact announced
  · obtain ⟨peer, _, rfl⟩ := Option.map_eq_some_iff.mp transport
    exact absurd slash peer.text_no_slash

end Gatehouse
