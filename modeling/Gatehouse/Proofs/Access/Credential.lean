import Gatehouse.Access.Bearer
import Gatehouse.Proofs.Text.Trimming
import Gatehouse.Proofs.Token.Framing

/-! The grammar of bearer credentials, and that the token of a request is read by it. Only the first
`authorization` value counts. It is plain text, starts with the scheme as it is written, and holds a
token between blanks and tabs. -/
namespace Gatehouse

/-- A byte that header text may hold: a tab, or printable ASCII. -/
def IsPlain (b : UInt8) : Prop := b = 0x09 ∨ (0x20 ≤ b ∧ b < 0x7F)

theorem IsPlain.ascii {b : UInt8} (plain : IsPlain b) : b.toNat < 0x80 := by
  rcases plain with rfl | ⟨-, below⟩
  · decide
  · exact Nat.lt_trans (UInt8.lt_iff_toNat_lt.mp below) (by decide)

/-- A value has a text exactly if all its bytes are plain, and it is written as that text then. -/
theorem header_text_iff {value : Bytes} {text : String} :
    headerText? value = some text ↔ (∀ b ∈ value, IsPlain b) ∧ value = Utf8.encode text := by
  have all_plain : (value.all fun b => b = 0x09 || (0x20 ≤ b && b < 0x7F)) = true ↔
      ∀ b ∈ value, IsPlain b := by
    simp [IsPlain]
  have written (plain : ∀ b ∈ value, IsPlain b) :
      Utf8.encode (String.ofList (value.map fun b => Char.ofNat b.toNat)) = value := by
    apply Utf8.encode_ascii
    intro b member
    exact (plain b member).ascii
  unfold headerText?
  constructor
  · intro read
    split at read
    · rename_i plain
      rw [all_plain] at plain
      cases read
      exact ⟨plain, (written plain).symm⟩
    · cases read
  · rintro ⟨plain, same⟩
    rw [if_pos (all_plain.mpr plain)]
    apply congrArg some
    apply Utf8.encode_injective
    rw [written plain, same]

/-- The characters of a plain text are ASCII, and its blanks are spaces and tabs. -/
theorem plain_char {text : String} (plain : ∀ b ∈ Utf8.encode text, IsPlain b) :
    ∀ c ∈ text.toList, c.toNat = 9 ∨ (32 ≤ c.toNat ∧ c.toNat < 127) := by
  intro c member
  rw [Utf8.encode_chars] at plain
  have bytes : ∀ b ∈ String.utf8EncodeChar c, IsPlain b := by
    intro b inside
    exact plain b (List.mem_flatMap.mpr ⟨c, member, inside⟩)
  have below (b : UInt8) (isPlain : IsPlain b) : b.toNat = 9 ∨ (32 ≤ b.toNat ∧ b.toNat < 127) := by
    rcases isPlain with tab | ⟨least, most⟩
    · left
      rw [tab]
      rfl
    · right
      exact ⟨UInt8.le_iff_toNat_le.mp least, UInt8.lt_iff_toNat_lt.mp most⟩
  by_cases ascii : c.toNat < 0x80
  · rw [Utf8.ascii_char ascii] at bytes
    have own := below _ (bytes _ (List.mem_singleton_self _))
    rw [UInt8.toNat_ofNat', Nat.mod_eq_of_lt (Nat.lt_trans ascii (by decide))] at own
    exact own
  · obtain ⟨b, inside⟩ : ∃ b, b ∈ String.utf8EncodeChar c := by
      apply List.exists_mem_of_length_pos
      rw [String.length_utf8EncodeChar]
      exact Char.utf8Size_pos c
    -- each byte of a longer encoding is above ASCII
    have beyond := Utf8.no_ascii_byte (Nat.le_of_not_lt ascii) b inside
    have small := below b (bytes b inside)
    omega

/-- And a text of such characters is plain. -/
theorem plain_of_chars {text : String}
    (plain : ∀ c ∈ text.toList, c.toNat = 9 ∨ (32 ≤ c.toNat ∧ c.toNat < 127)) :
    ∀ b ∈ Utf8.encode text, IsPlain b := by
  intro b member
  rw [Utf8.encode_chars] at member
  obtain ⟨c, inside, byte⟩ := List.mem_flatMap.mp member
  have own := plain c inside
  rw [Utf8.ascii_char (by omega)] at byte
  rw [List.mem_singleton.mp byte]
  have number : (UInt8.ofNat c.toNat).toNat = c.toNat := by
    rw [UInt8.toNat_ofNat']
    omega
  rcases own with tab | ⟨least, most⟩
  · left
    rw [tab]
    rfl
  · right
    rw [UInt8.le_iff_toNat_le, UInt8.lt_iff_toNat_lt, number]
    exact ⟨least, most⟩

namespace Access

/-- What may stand around a token. -/
def isGap (c : Char) : Bool := c = ' ' || c = '\t'

/-- A header value carries a token: it is plain, and it is the scheme followed by the token, with blanks
and tabs around the token but none at its ends. -/
structure Carries (value : Bytes) (token : String) : Prop where
  plain : ∀ b ∈ value, IsPlain b
  written : ∃ before behind : String, (∀ c ∈ before.toList, isGap c) ∧
    (∀ c ∈ behind.toList, isGap c) ∧ value = Utf8.encode ("Bearer " ++ before ++ token ++ behind)
  some_token : token ≠ ""
  trimmed : Blank.Trimmed isGap token.toList

/-- A header value is the scheme with nothing but blanks and tabs behind it. -/
def CarriesNothing (value : Bytes) : Prop :=
  ∃ gaps : String, (∀ c ∈ gaps.toList, isGap c) ∧ value = Utf8.encode ("Bearer " ++ gaps)

theorem is_gap_iff {c : Char} : isGap c = true ↔ c.toNat = 32 ∨ c.toNat = 9 := by
  have space : c = ' ' ↔ c.toNat = 32 := Char.toNat_inj.symm
  have tab : c = '\t' ↔ c.toNat = 9 := Char.toNat_inj.symm
  simp only [isGap, Bool.or_eq_true, decide_eq_true_eq, space, tab]

/-- In plain text these are the only blanks. -/
theorem blank_iff_gap {c : Char} (plain : c.toNat = 9 ∨ (32 ≤ c.toNat ∧ c.toNat < 127)) :
    Blank.isBlank c = isGap c := by
  apply Bool.eq_iff_iff.mpr
  rw [is_gap_iff]
  simp only [Blank.isBlank, Bool.or_eq_true, Bool.and_eq_true, decide_eq_true_eq]
  omega

private theorem scheme_plain :
    ∀ c ∈ scheme, c.toNat = 9 ∨ (32 ≤ c.toNat ∧ c.toNat < 127) := by
  -- as a check over the list: over all characters there would be too many to decide
  have printable : scheme.all (fun c => 32 ≤ c.toNat && c.toNat < 127) = true := by decide
  intro c member
  have own := List.all_eq_true.mp printable c member
  rw [Bool.and_eq_true, decide_eq_true_iff, decide_eq_true_iff] at own
  exact .inr own

/-! ## Reading a value -/

theorem after_scheme_iff {text rest : List Char} :
    afterScheme? text = some rest ↔ text = scheme ++ rest := by
  unfold afterScheme?
  constructor
  · intro read
    split at read
    · rename_i starts
      cases read
      exact (List.prefix_iff_eq_append.mp (List.isPrefixOf_iff_prefix.mp starts)).symm
    · cases read
  · rintro rfl
    rw [if_pos (List.isPrefixOf_iff_prefix.mpr (List.prefix_append scheme rest)),
      List.drop_left]

private theorem scheme_chars (rest : List Char) :
    ("Bearer " ++ String.ofList rest).toList = scheme ++ rest := by
  rw [String.toList_append]
  exact congrArg (scheme ++ ·) String.toList_ofList

/-- What stands behind the scheme in a plain value. -/
theorem behind_scheme_iff {value : Bytes} {rest : List Char} :
    ((headerText? value).bind fun text => afterScheme? text.toList) = some rest ↔
      (∀ b ∈ value, IsPlain b) ∧ value = Utf8.encode ("Bearer " ++ String.ofList rest) := by
  have whole (text : String) :
      text.toList = scheme ++ rest ↔ text = "Bearer " ++ String.ofList rest := by
    rw [← scheme_chars]
    exact String.toList_inj
  rw [Option.bind_eq_some_iff]
  constructor
  · rintro ⟨text, read, starts⟩
    obtain ⟨plain, written⟩ := header_text_iff.mp read
    rw [(whole text).mp (after_scheme_iff.mp starts)] at written
    exact ⟨plain, written⟩
  · rintro ⟨plain, written⟩
    refine ⟨_, header_text_iff.mpr ⟨plain, written⟩, ?_⟩
    exact after_scheme_iff.mpr ((whole _).mpr rfl)

/-- Behind the scheme of a plain value trimming takes off blanks and tabs. -/
theorem trim_plain {rest : List Char}
    (plain : ∀ b ∈ Utf8.encode ("Bearer " ++ String.ofList rest), IsPlain b) :
    Blank.trimWhere Blank.isBlank rest = Blank.trimWhere isGap rest := by
  apply Blank.trim_congr
  intro c member
  apply blank_iff_gap
  apply plain_char plain
  rw [scheme_chars]
  exact List.mem_append_right scheme member

private theorem carries_iff {value : Bytes} {token : String} :
    Carries value token ↔ token ≠ "" ∧ ∃ rest,
      ((headerText? value).bind fun text => afterScheme? text.toList) = some rest ∧
        Blank.trimWhere Blank.isBlank rest = token.toList := by
  have remains (known : token ≠ "") : token.toList ≠ [] := by
    intro empty
    exact known (String.toList_eq_nil_iff.mp empty)
  constructor
  · rintro ⟨plain, ⟨before, behind, gaps_before, gaps_behind, written⟩, known, trimmed⟩
    have apart : value = Utf8.encode
        ("Bearer " ++ String.ofList (before.toList ++ (token.toList ++ behind.toList))) := by
      rw [written]
      simp only [String.ofList_append, String.ofList_toList, String.append_assoc]
    refine ⟨known, _, behind_scheme_iff.mpr ⟨plain, apart⟩, ?_⟩
    rw [apart] at plain
    rw [trim_plain plain, Blank.trim_iff (remains known)]
    exact ⟨before.toList, behind.toList, rfl, gaps_before, gaps_behind, trimmed⟩
  · rintro ⟨known, rest, starts, left⟩
    obtain ⟨plain, written⟩ := behind_scheme_iff.mp starts
    have plain_text := plain
    rw [written] at plain_text
    rw [trim_plain plain_text, Blank.trim_iff (remains known)] at left
    obtain ⟨before, behind, rfl, gaps_before, gaps_behind, trimmed⟩ := left
    refine ⟨plain, ⟨String.ofList before, String.ofList behind, ?_, ?_, ?_⟩, known, trimmed⟩
    · rw [String.toList_ofList]
      exact gaps_before
    · rw [String.toList_ofList]
      exact gaps_behind
    · rw [written]
      simp only [String.ofList_append, String.ofList_toList, String.append_assoc]

private theorem carries_nothing_iff {value : Bytes} :
    CarriesNothing value ↔ ∃ rest,
      ((headerText? value).bind fun text => afterScheme? text.toList) = some rest ∧
        Blank.trimWhere Blank.isBlank rest = [] := by
  constructor
  · rintro ⟨gaps, only_gaps, written⟩
    have plain : ∀ b ∈ value, IsPlain b := by
      rw [written]
      apply plain_of_chars
      intro c member
      rw [String.toList_append] at member
      rcases List.mem_append.mp member with named | around
      · exact scheme_plain c named
      · have gap := is_gap_iff.mp (only_gaps c around)
        omega
    have apart : value = Utf8.encode ("Bearer " ++ String.ofList gaps.toList) := by
      rw [String.ofList_toList]
      exact written
    refine ⟨gaps.toList, behind_scheme_iff.mpr ⟨plain, apart⟩, ?_⟩
    rw [apart] at plain
    rw [trim_plain plain, Blank.trim_nil_iff]
    exact only_gaps
  · rintro ⟨rest, starts, left⟩
    obtain ⟨plain, written⟩ := behind_scheme_iff.mp starts
    rw [written] at plain
    rw [trim_plain plain, Blank.trim_nil_iff] at left
    refine ⟨String.ofList rest, ?_, written⟩
    rw [String.toList_ofList]
    exact left

/-- A first value carries one token, or nothing, or is of another scheme, and is read as that. -/
private theorem first_value_read {headers : Headers} {value : Bytes}
    (first : headers.get? "authorization" = some value) :
    (∃ token, bearerToken headers = .ok token ∧ ¬ CarriesNothing value ∧
      ∀ other, Carries value other ↔ other = token) ∨
    (bearerToken headers = .error .emptyToken ∧ CarriesNothing value ∧
      ∀ token, ¬ Carries value token) ∨
    (bearerToken headers = .error .otherScheme ∧ ¬ CarriesNothing value ∧
      ∀ token, ¬ Carries value token) := by
  unfold bearerToken
  rw [first]
  simp only [carries_iff, carries_nothing_iff]
  cases (headerText? value).bind fun text => afterScheme? text.toList with
  | none =>
    right; right
    refine ⟨rfl, ?_, ?_⟩
    · rintro ⟨rest, found, _⟩
      cases found
    · rintro token ⟨_, rest, found, _⟩
      cases found
  | some rest =>
    simp only [Option.some.injEq, exists_eq_left']
    cases left : Blank.trimWhere Blank.isBlank rest with
    | nil =>
      right; left
      refine ⟨rfl, rfl, ?_⟩
      rintro token ⟨known, empty⟩
      exact known (String.toList_eq_nil_iff.mp empty.symm)
    | cons c others =>
      left
      refine ⟨String.ofList (c :: others), rfl, List.cons_ne_nil c others, ?_⟩
      intro other
      constructor
      · rintro ⟨_, same⟩
        rw [same, String.ofList_toList]
      · rintro rfl
        rw [String.toList_ofList]
        refine ⟨?_, rfl⟩
        intro empty
        have none_left := String.toList_eq_nil_iff.mpr empty
        rw [String.toList_ofList] at none_left
        cases none_left

theorem bearer_token_missing_iff {headers : Headers} :
    bearerToken headers = .error .missing ↔ headers.get? "authorization" = none := by
  cases first : headers.get? "authorization" with
  | none =>
    unfold bearerToken
    rw [first]
    exact iff_of_true rfl rfl
  | some value =>
    rcases first_value_read first with ⟨token, read, _⟩ | ⟨read, _⟩ | ⟨read, _⟩
    · simp [read]
    · simp [read]
    · simp [read]

/-- The token of a request is the one that its first value carries. -/
theorem bearer_token_iff {headers : Headers} {token : String} :
    bearerToken headers = .ok token ↔
      ∃ value, headers.get? "authorization" = some value ∧ Carries value token := by
  cases first : headers.get? "authorization" with
  | none => simp [bearer_token_missing_iff.mpr first]
  | some value =>
    rcases first_value_read first with ⟨own, read, _, carried⟩ | ⟨read, _, other⟩ | ⟨read, _, other⟩
    · simp [read, carried, eq_comm]
    · simp [read, other]
    · simp [read, other]

theorem bearer_token_empty_iff {headers : Headers} :
    bearerToken headers = .error .emptyToken ↔
      ∃ value, headers.get? "authorization" = some value ∧ CarriesNothing value := by
  cases first : headers.get? "authorization" with
  | none => simp [bearer_token_missing_iff.mpr first]
  | some value =>
    rcases first_value_read first with ⟨own, read, known, _⟩ | ⟨read, empty, _⟩ | ⟨read, known, _⟩
    · simp [read, known]
    · simp [read, empty]
    · simp [read, known]

/-- A value that carries neither a token nor nothing is taken for another scheme. -/
theorem bearer_token_other_iff {headers : Headers} :
    bearerToken headers = .error .otherScheme ↔
      ∃ value, headers.get? "authorization" = some value ∧ ¬ CarriesNothing value ∧
        ∀ token, ¬ Carries value token := by
  cases first : headers.get? "authorization" with
  | none => simp [bearer_token_missing_iff.mpr first]
  | some value =>
    rcases first_value_read first with ⟨own, read, _, carried⟩ | ⟨read, empty, _⟩ | ⟨read, known, other⟩
    · simp [read, carried]
    · simp [read, empty]
    · simp [read, known, other]

/-! ## Tokens in credentials -/

/-- A token without blanks can be carried. -/
theorem carries_token {token : String} (some_token : token ≠ "")
    (visible : ∀ c ∈ token.toList, 32 < c.toNat ∧ c.toNat < 127) :
    Carries (Utf8.encode ("Bearer " ++ token)) token := by
  have no_gap (c : Char) (member : c ∈ token.toList) : isGap c = false := by
    apply Bool.eq_false_iff.mpr
    intro gap
    have own := visible c member
    rcases is_gap_iff.mp gap with space | tab
    · omega
    · omega
  refine ⟨?_, ⟨"", "", ?_, ?_, ?_⟩, some_token, ?_, ?_⟩
  · apply plain_of_chars
    intro c member
    rw [String.toList_append] at member
    rcases List.mem_append.mp member with named | own
    · exact scheme_plain c named
    · have shown := visible c own
      omega
  · intro c member
    cases member
  · intro c member
    cases member
  · rw [String.append_empty, String.append_empty]
  · intro c first
    exact no_gap c (List.mem_of_mem_head? first)
  · intro c last
    exact no_gap c (List.mem_of_mem_getLast? last)

private theorem symbol_visible :
    ∀ n < 64, 32 < (Base64Url.symbol n).toNat ∧ (Base64Url.symbol n).toNat < 127 := by
  decide

private theorem part_visible (bytes : Bytes) :
    ∀ c ∈ (Token.part bytes).toList, 32 < c.toNat ∧ c.toNat < 127 := by
  intro c member
  rw [Token.part, String.toList_ofList] at member
  obtain ⟨b, held, rfl⟩ := List.mem_map.mp member
  obtain ⟨n, small, rfl⟩ := Base64Url.encode_symbols bytes b held
  rw [Utf8.ascii_number _ (Base64Url.symbol_is_plain n small).1]
  exact symbol_visible n small

/-- The token of two documents can be carried. -/
theorem carries_framed (secret : String) (header payload : Bytes) :
    Carries (Utf8.encode ("Bearer " ++ Token.framed secret header payload))
      (Token.framed secret header payload) := by
  have dot_visible : ∀ c ∈ ".".toList, 32 < c.toNat ∧ c.toNat < 127 := by simp
  apply carries_token
  · intro empty
    have dotted : '.' ∈ (Token.framed secret header payload).toList := by
      simp [Token.framed]
    rw [empty] at dotted
    cases dotted
  · intro c member
    simp only [Token.framed, Token.message, Token.signature, String.toList_append,
      List.mem_append] at member
    rcases member with (((inHeader | dot) | inPayload) | dot) | inSignature
    · exact part_visible _ c inHeader
    · exact dot_visible c dot
    · exact part_visible _ c inPayload
    · exact dot_visible c dot
    · exact part_visible _ c inSignature

end Access
end Gatehouse
