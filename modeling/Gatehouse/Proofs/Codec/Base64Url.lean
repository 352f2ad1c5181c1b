import Gatehouse.Codec.Base64Url
import Mathlib.Data.List.TakeWhile

/-!
Reading base 64 accepts exactly what writing produces. Both go by groups: three bytes and four
symbols hold the same number, and the shorter group at the end holds it with spare bits that must be
zero.
-/
namespace Gatehouse.Base64Url

/-! ## Symbols -/

theorem value_of_symbol : ∀ n < 64, value? (symbol n) = some n := by decide

private theorem symbol_of_value_below : ∀ k < 256,
    (value? (UInt8.ofNat k)).all fun n => n < 64 && symbol n == UInt8.ofNat k := by
  decide +kernel

/-- A byte with a value is the symbol of that value. -/
theorem symbol_of_value {b : UInt8} {n : Nat} (known : value? b = some n) :
    n < 64 ∧ symbol n = b := by
  have all := symbol_of_value_below b.toNat b.toNat_lt
  rw [UInt8.ofNat_toNat, known] at all
  simpa using all

/-- Symbols are ASCII, and neither the padding nor a dot is one. -/
theorem symbol_is_plain : ∀ n < 64,
    (symbol n).toNat < 0x80 ∧ symbol n ≠ pad ∧ symbol n ≠ 0x2E := by decide

theorem values_of_symbols {ns : List Nat} (small : ∀ n ∈ ns, n < 64) (offset : Nat) :
    values offset (ns.map symbol) = .ok ns := by
  induction ns generalizing offset with
  | nil => rfl
  | cons n rest ih =>
    obtain ⟨first, others⟩ := List.forall_mem_cons.mp small
    simp only [List.map_cons, values, value_of_symbol n first, ih others]
    rfl

theorem symbols_of_values {text : Bytes} {offset : Nat} {ns : List Nat}
    (read : values offset text = .ok ns) : text = ns.map symbol ∧ ∀ n ∈ ns, n < 64 := by
  induction text generalizing offset ns with
  | nil =>
    cases read
    simp
  | cons b rest ih =>
    unfold values at read
    cases known : value? b with
    | none => simp [known] at read
    | some n =>
      obtain ⟨small, same⟩ := symbol_of_value known
      cases others : values (offset + 1) rest with
      | error defect => simp [known, others, Except.map] at read
      | ok more =>
        simp only [known, others, Except.map, Except.ok.injEq] at read
        obtain ⟨text, smaller⟩ := ih others
        subst read
        exact ⟨by simp [← same, ← text], List.forall_mem_cons.mpr ⟨small, smaller⟩⟩

/-- The last group is read if it consists of symbols. -/
theorem last_values_iff {group : Bytes} {offset : Nat} {ns : List Nat} :
    lastValues offset group = .ok ns ↔ group = ns.map symbol ∧ ∀ n ∈ ns, n < 64 := by
  constructor
  · intro read
    unfold lastValues at read
    cases front : values offset (group.takeWhile (· ≠ pad)) with
    | error defect =>
      simp only [front] at read
      contradiction
    | ok taken =>
      simp only [front] at read
      split at read
      · rename_i nothingBehind
        have whole := List.takeWhile_append_dropWhile (p := (· ≠ pad)) (l := group)
        rw [List.isEmpty_iff.mp nothingBehind, List.append_nil] at whole
        rw [whole] at front
        cases read
        exact symbols_of_values front
      · repeat (split at read <;> try contradiction)
  · rintro ⟨rfl, small⟩
    have plain : ∀ b ∈ ns.map symbol, decide (b ≠ pad) := by
      intro b member
      obtain ⟨n, held, rfl⟩ := List.mem_map.mp member
      exact decide_eq_true (symbol_is_plain n (small n held)).2.1
    have front := List.takeWhile_eq_self_iff.mpr plain
    have behind := List.dropWhile_eq_nil_iff.mpr plain
    simp only [lastValues, front, behind, values_of_symbols small]
    rfl

/-! ## Groups -/

private theorem bytes_of_one (n : Nat) : bytesOf 1 n = [UInt8.ofNat (n % 256)] := by
  simp [bytesOf, List.range_succ]

private theorem bytes_of_two (n : Nat) :
    bytesOf 2 n = [UInt8.ofNat (n / 256 % 256), UInt8.ofNat (n % 256)] := by
  simp [bytesOf, List.range_succ]

private theorem bytes_of_three (n : Nat) :
    bytesOf 3 n = [UInt8.ofNat (n / 65536 % 256), UInt8.ofNat (n / 256 % 256),
      UInt8.ofNat (n % 256)] := by
  simp [bytesOf, List.range_succ]

private theorem byte_again (b : UInt8) {n : Nat} (same : n = b.toNat) : UInt8.ofNat n = b := by
  rw [same, UInt8.ofNat_toNat]

/-- Three bytes are written as the four symbols of their number. -/
theorem encode_three {n : Nat} (small : n < 16777216) (rest : Bytes) :
    encode (bytesOf 3 n ++ rest) = symbol (n / 262144) :: symbol (n / 4096 % 64) ::
      symbol (n / 64 % 64) :: symbol (n % 64) :: encode rest := by
  have again : n / 65536 % 256 % 256 * 65536 + n / 256 % 256 % 256 * 256 + n % 256 % 256 = n := by
    omega
  simp only [bytes_of_three, List.cons_append, List.nil_append, encode, UInt8.toNat_ofNat',
    Nat.reducePow, again]

theorem encode_two {n : Nat} (small : n < 65536) :
    encode (bytesOf 2 n) = [symbol (n / 1024), symbol (n / 16 % 64), symbol (n % 16 * 4)] := by
  have again : n / 256 % 256 % 256 * 256 + n % 256 % 256 = n := by omega
  simp only [bytes_of_two, encode, UInt8.toNat_ofNat', Nat.reducePow, again]

theorem encode_one {n : Nat} (small : n < 256) :
    encode (bytesOf 1 n) = [symbol (n / 4), symbol (n % 4 * 16)] := by
  have again : n % 256 % 256 = n := by omega
  simp only [bytes_of_one, encode, UInt8.toNat_ofNat', Nat.reducePow, again]

/-- Four symbols are written for the three bytes of their number. -/
theorem encode_three_symbols {a b c d : Nat} (first : a < 64) (second : b < 64) (third : c < 64)
    (fourth : d < 64) (rest : Bytes) :
    encode (bytesOf 3 (a * 262144 + b * 4096 + c * 64 + d) ++ rest) =
      [a, b, c, d].map symbol ++ encode rest := by
  have atFirst : (a * 262144 + b * 4096 + c * 64 + d) / 262144 = a := by omega
  have atSecond : (a * 262144 + b * 4096 + c * 64 + d) / 4096 % 64 = b := by omega
  have atThird : (a * 262144 + b * 4096 + c * 64 + d) / 64 % 64 = c := by omega
  have atFourth : (a * 262144 + b * 4096 + c * 64 + d) % 64 = d := by omega
  rw [encode_three (by omega), atFirst, atSecond, atThird, atFourth]
  rfl

/-- What the last group is read as is written as that group. -/
theorem encode_of_decode_last {group bytes : Bytes} {offset : Nat} (short : group.length ≤ 4)
    (read : decodeLast offset group = .ok bytes) : group = encode bytes := by
  unfold decodeLast at read
  cases known : lastValues offset group with
  | error defect => simp [known, bind, Except.bind] at read
  | ok ns =>
    obtain ⟨rfl, small⟩ := last_values_iff.mp known
    simp only [known, bind, Except.bind] at read
    split at read
    · cases read
      rfl
    · contradiction
    · rename_i a b
      simp only [List.forall_mem_cons] at small
      split at read
      · cases read
        have first : (a * 4 + b / 16) / 4 = a := by omega
        have second : (a * 4 + b / 16) % 4 * 16 = b := by omega
        rw [encode_one (by omega), first, second]
        rfl
      · contradiction
    · rename_i a b c
      simp only [List.forall_mem_cons] at small
      split at read
      · cases read
        have first : (a * 1024 + b * 16 + c / 4) / 1024 = a := by omega
        have second : (a * 1024 + b * 16 + c / 4) / 16 % 64 = b := by omega
        have third : (a * 1024 + b * 16 + c / 4) % 16 * 4 = c := by omega
        rw [encode_two (by omega), first, second, third]
        rfl
      · contradiction
    · rename_i a b c d more
      have last : more = [] := by
        cases more with
        | nil => rfl
        | cons e rest =>
          simp only [List.length_map, List.length_cons] at short
          omega
      subst last
      simp only [List.forall_mem_cons] at small
      cases read
      rw [← List.append_nil (bytesOf 3 _), encode_three_symbols small.1 small.2.1 small.2.2.1
        small.2.2.2.1]
      rfl

/-- Whatever is read is written as the text it was read from. -/
theorem encode_of_decode_from {text bytes : Bytes} {offset : Nat}
    (read : decodeFrom offset text = .ok bytes) : text = encode bytes := by
  fun_induction decodeFrom offset text generalizing bytes with
  | case1 offset a b c d e rest ih =>
    cases known : values offset [a, b, c, d] with
    | error defect => simp [known, bind, Except.bind] at read
    | ok ns =>
      cases others : decodeFrom (offset + 4) (e :: rest) with
      | error defect => simp [known, others, bind, Except.bind] at read
      | ok more =>
        simp only [known, others, bind, Except.bind, pure, Except.pure, Except.ok.injEq] at read
        obtain ⟨group, small⟩ := symbols_of_values known
        match ns, group, small with
        | [x, y, z, w], group, small =>
          simp only [List.forall_mem_cons] at small
          have value : [x, y, z, w].foldl (fun acc n => acc * 64 + n) 0 =
              x * 262144 + y * 4096 + z * 64 + w := by
            simp only [List.foldl_cons, List.foldl_nil]
            omega
          rw [← read, value, encode_three_symbols small.1 small.2.1 small.2.2.1 small.2.2.2.1,
            ← ih others]
          simpa using group
  | case2 offset group notLong =>
    refine encode_of_decode_last ?_ read
    match group, notLong with
    | [], _ | [_], _ | [_, _], _ | [_, _, _], _ | [_, _, _, _], _ => simp
    | a :: b :: c :: d :: e :: rest, notLong => exact absurd rfl (notLong a b c d e rest)

/-! ## Reading what was written -/

private theorem decode_last_symbols {ns : List Nat} (small : ∀ n ∈ ns, n < 64) (offset : Nat) :
    lastValues offset (ns.map symbol) = .ok ns := last_values_iff.mpr ⟨rfl, small⟩

private theorem three_bytes (a b c : UInt8) :
    bytesOf 3 (a.toNat * 65536 + b.toNat * 256 + c.toNat) = [a, b, c] := by
  have below := And.intro a.toNat_lt (And.intro b.toNat_lt c.toNat_lt)
  rw [bytes_of_three, byte_again a (by omega), byte_again b (by omega), byte_again c (by omega)]

private theorem number_of_three (a b c : UInt8) :
    a.toNat * 65536 + b.toNat * 256 + c.toNat < 16777216 := by
  have below := And.intro a.toNat_lt (And.intro b.toNat_lt c.toNat_lt)
  omega

private theorem number_of_two (a b : UInt8) : a.toNat * 256 + b.toNat < 65536 := by
  have below := And.intro a.toNat_lt b.toNat_lt
  omega

private theorem four_small {n : Nat} (bound : n < 16777216) :
    ∀ k ∈ [n / 262144, n / 4096 % 64, n / 64 % 64, n % 64], k < 64 := by
  simp only [List.forall_mem_cons]
  exact ⟨by omega, by omega, by omega, by omega, by simp⟩

private theorem three_small {n : Nat} (bound : n < 65536) :
    ∀ k ∈ [n / 1024, n / 16 % 64, n % 16 * 4], k < 64 := by
  simp only [List.forall_mem_cons]
  exact ⟨by omega, by omega, by omega, by simp⟩

private theorem two_small {n : Nat} (bound : n < 256) : ∀ k ∈ [n / 4, n % 4 * 16], k < 64 := by
  simp only [List.forall_mem_cons]
  exact ⟨by omega, by omega, by simp⟩

/-- Every group that was written is read back. -/
theorem decode_from_encode (bytes : Bytes) (offset : Nat) :
    decodeFrom offset (encode bytes) = .ok bytes := by
  fun_induction encode bytes generalizing offset with
  | case1 a b c rest n ih =>
    have bound : n < 16777216 := number_of_three a b c
    have small := four_small bound
    have value : n / 262144 * 262144 + n / 4096 % 64 * 4096 + n / 64 % 64 * 64 + n % 64 = n := by
      omega
    cases shape : encode rest with
    | nil =>
      have ended := ih (offset + 4)
      rw [shape] at ended
      cases ended
      have last := decode_last_symbols small offset
      simp only [List.map_cons, List.map_nil] at last
      simp only [decodeFrom, decodeLast, last, bind, Except.bind, value]
      exact congrArg Except.ok (three_bytes a b c)
    | cons e more =>
      have group := values_of_symbols small offset
      simp only [List.map_cons, List.map_nil] at group
      have folded : [n / 262144, n / 4096 % 64, n / 64 % 64, n % 64].foldl
          (fun acc n => acc * 64 + n) 0 = n := by
        simp only [List.foldl_cons, List.foldl_nil]
        omega
      rw [decodeFrom, ← shape]
      simp only [group, ih, bind, Except.bind, folded]
      exact congrArg (fun bytes => Except.ok (bytes ++ rest)) (three_bytes a b c)
  | case2 a b n =>
    have below := And.intro a.toNat_lt b.toNat_lt
    have bound : n < 65536 := number_of_two a b
    have small := three_small bound
    have last := decode_last_symbols small offset
    simp only [List.map_cons, List.map_nil] at last
    have value : n / 1024 * 1024 + n / 16 % 64 * 16 + n % 16 * 4 / 4 = n := by omega
    have bytes : bytesOf 2 n = [a, b] := by
      rw [bytes_of_two, byte_again a (by simp only [n]; omega), byte_again b (by simp only [n]; omega)]
    simp only [decodeFrom, decodeLast, last, bind, Except.bind, value]
    rw [if_pos (by omega), bytes]
    rfl
  | case3 a =>
    have below := a.toNat_lt
    have small := two_small below
    have last := decode_last_symbols small offset
    simp only [List.map_cons, List.map_nil] at last
    have value : a.toNat / 4 * 4 + a.toNat % 4 * 16 / 16 = a.toNat := by omega
    have bytes : bytesOf 1 a.toNat = [a] := by
      rw [bytes_of_one, byte_again a (by omega)]
    simp only [decodeFrom, decodeLast, last, bind, Except.bind, value]
    rw [if_pos (by omega), bytes]
    rfl
  | case4 => rfl

/-- Written texts consist of symbols. -/
theorem encode_symbols (bytes : Bytes) :
    ∀ b ∈ encode bytes, ∃ n < 64, b = symbol n := by
  fun_induction encode bytes with
  | case1 a b c rest n ih =>
    have bound : n < 16777216 := number_of_three a b c
    have small := four_small bound
    simp only [List.forall_mem_cons] at small ⊢
    obtain ⟨first, second, third, fourth, _⟩ := small
    exact ⟨⟨_, first, rfl⟩, ⟨_, second, rfl⟩, ⟨_, third, rfl⟩, ⟨_, fourth, rfl⟩, ih⟩
  | case2 a b n =>
    have bound : n < 65536 := number_of_two a b
    have small := three_small bound
    simp only [List.forall_mem_cons] at small ⊢
    obtain ⟨first, second, third, _⟩ := small
    exact ⟨⟨_, first, rfl⟩, ⟨_, second, rfl⟩, ⟨_, third, rfl⟩, by simp⟩
  | case3 a =>
    have small := two_small a.toNat_lt
    simp only [List.forall_mem_cons] at small ⊢
    obtain ⟨first, second, _⟩ := small
    exact ⟨⟨_, first, rfl⟩, ⟨_, second, rfl⟩, by simp⟩
  | case4 => simp

theorem decode_encode (bytes : Bytes) : decode (encode bytes) = .ok bytes := by
  unfold decode
  cases last : (encode bytes).getLast? with
  | none =>
    have whole := decode_from_encode bytes 0
    rw [List.getLast?_eq_none_iff.mp last] at whole
    exact whole
  | some b =>
    obtain ⟨n, small, rfl⟩ := encode_symbols bytes b (List.mem_of_getLast? last)
    simp only [value_of_symbol n small, Option.isNone_some, Bool.and_false, Bool.false_eq_true,
      if_false]
    exact decode_from_encode bytes 0

theorem encode_of_decode {text bytes : Bytes} (read : decode text = .ok bytes) :
    text = encode bytes := by
  unfold decode at read
  cases last : text.getLast? with
  | none =>
    rw [last] at read
    cases read
    exact List.getLast?_eq_none_iff.mp last
  | some b =>
    simp only [last] at read
    split at read
    · contradiction
    · exact encode_of_decode_from read

/-- A text has a reading exactly if it is the written form of that reading. -/
theorem decode_iff {text bytes : Bytes} : decode text = .ok bytes ↔ text = encode bytes :=
  ⟨encode_of_decode, fun same => same ▸ decode_encode bytes⟩

end Gatehouse.Base64Url
