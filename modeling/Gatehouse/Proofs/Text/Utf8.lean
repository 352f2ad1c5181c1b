import Gatehouse.Text.Utf8

/-!
Reading bytes as text undoes writing text as bytes. A character is written as one to four bytes whose
ranges do not overlap, so the scan finds its end again whatever follows it.
-/
namespace Gatehouse.Utf8

/-! ## Bytes of a text -/

private theorem to_list_loop (bytes : ByteArray) (index : Nat) (taken : Bytes) :
    ByteArray.toList.loop bytes index taken = taken.reverse ++ bytes.data.toList.drop index := by
  fun_induction ByteArray.toList.loop bytes index taken with
  | case1 index taken inside ih =>
    have bound : index < bytes.data.toList.length := by simpa using inside
    have here : bytes.get! index = bytes.data.toList[index] := by
      cases bytes with
      | mk data => simp [ByteArray.get!, getElem!_pos data index (by simpa using bound)]
    rw [ih, here, List.drop_eq_getElem_cons bound, List.reverse_cons, List.append_assoc]
    rfl
  | case2 index taken outside =>
    have none_left : bytes.data.toList.length ≤ index := by simpa using outside
    rw [List.drop_eq_nil_of_le none_left, List.append_nil]

/-- A text is written character by character. -/
theorem encode_chars (text : String) : encode text = text.toList.flatMap String.utf8EncodeChar := by
  have whole : text.toByteArray.toList = text.toByteArray.data.toList := by
    rw [ByteArray.toList, to_list_loop]
    rfl
  rw [encode, String.toUTF8_eq_toByteArray, whole, ← String.utf8Encode_toList, List.utf8Encode,
    List.toList_data_toByteArray]

theorem encode_of_list (chars : List Char) :
    encode (String.ofList chars) = chars.flatMap String.utf8EncodeChar := by
  rw [encode_chars, String.toList_ofList]

theorem encode_singleton (c : Char) : encode (String.singleton c) = String.utf8EncodeChar c := by
  rw [String.singleton_eq_ofList, encode_of_list, List.flatMap_singleton]

theorem encode_append (first second : String) :
    encode (first ++ second) = encode first ++ encode second := by
  rw [encode_chars, String.toList_append, List.flatMap_append, ← encode_chars, ← encode_chars]

/-! ## The scan of one character -/

private theorem byte_value {n : Nat} (small : n < 256) : (UInt8.ofNat n).toNat = n := by
  rw [UInt8.toNat_ofNat', Nat.mod_eq_of_lt small]

theorem is_continuation_iff {b : UInt8} :
    isContinuation b = true ↔ 0x80 ≤ b.toNat ∧ b.toNat ≤ 0xBF := by
  simp [isContinuation, UInt8.le_iff_toNat_le]

theorem second_of_three_iff {lead second : UInt8} :
    secondOfThree lead second = true ↔
      (if lead.toNat = 0xE0 then 0xA0 else 0x80) ≤ second.toNat ∧
        second.toNat ≤ (if lead.toNat = 0xED then 0x9F else 0xBF) := by
  unfold secondOfThree
  by_cases lowest : lead = 0xE0
  · simp [lowest, UInt8.le_iff_toNat_le]
  · by_cases surrogates : lead = 0xED
    · simp [surrogates, UInt8.le_iff_toNat_le]
    · have notLowest : lead.toNat ≠ 0xE0 := fun same => lowest (UInt8.toNat_inj.mp same)
      have notSurrogates : lead.toNat ≠ 0xED := fun same => surrogates (UInt8.toNat_inj.mp same)
      simp [lowest, surrogates, notLowest, notSurrogates, is_continuation_iff]

theorem second_of_four_iff {lead second : UInt8} :
    secondOfFour lead second = true ↔
      (if lead.toNat = 0xF0 then 0x90 else 0x80) ≤ second.toNat ∧
        second.toNat ≤ (if lead.toNat = 0xF4 then 0x8F else 0xBF) := by
  unfold secondOfFour
  by_cases lowest : lead = 0xF0
  · simp [lowest, UInt8.le_iff_toNat_le]
  · by_cases highest : lead = 0xF4
    · simp [highest, UInt8.le_iff_toNat_le]
    · have notLowest : lead.toNat ≠ 0xF0 := fun same => lowest (UInt8.toNat_inj.mp same)
      have notHighest : lead.toNat ≠ 0xF4 := fun same => highest (UInt8.toNat_inj.mp same)
      simp [lowest, highest, notLowest, notHighest, is_continuation_iff]

private theorem scan_one {n : Nat} (low : n < 0x80) (rest : Bytes) :
    scan (UInt8.ofNat n :: rest) = some (Char.ofNat n) :: scan rest := by
  have lead := byte_value (n := n) (by omega)
  rw [scan.eq_def]
  simp only [UInt8.lt_iff_toNat_lt, lead, UInt8.reduceToNat]
  rw [if_pos low]

private theorem scan_two {n : Nat} (low : 0x80 ≤ n) (high : n < 0x800) (rest : Bytes) :
    scan (UInt8.ofNat (n / 64 % 32 + 0xC0) :: UInt8.ofNat (n % 64 + 0x80) :: rest) =
      some (Char.ofNat n) :: scan rest := by
  have lead := byte_value (n := n / 64 % 32 + 0xC0) (by omega)
  have second := byte_value (n := n % 64 + 0x80) (by omega)
  have value : (n / 64 % 32 + 0xC0) % 32 * 64 + (n % 64 + 0x80) % 64 = n := by omega
  rw [scan.eq_def]
  simp only [UInt8.lt_iff_toNat_lt, UInt8.le_iff_toNat_le, is_continuation_iff, low6, lead, second,
    value, UInt8.reduceToNat]
  rw [if_neg (by omega), if_pos (by simp; omega), if_pos (by omega)]

private theorem scan_three {n : Nat} (low : 0x800 ≤ n) (high : n < 0x10000)
    (scalar : n < 0xD800 ∨ 0xDFFF < n) (rest : Bytes) :
    scan (UInt8.ofNat (n / 4096 % 16 + 0xE0) :: UInt8.ofNat (n / 64 % 64 + 0x80) ::
        UInt8.ofNat (n % 64 + 0x80) :: rest) = some (Char.ofNat n) :: scan rest := by
  have lead := byte_value (n := n / 4096 % 16 + 0xE0) (by omega)
  have second := byte_value (n := n / 64 % 64 + 0x80) (by omega)
  have third := byte_value (n := n % 64 + 0x80) (by omega)
  have value : (n / 4096 % 16 + 0xE0) % 16 * 4096 + (n / 64 % 64 + 0x80) % 64 * 64 +
      (n % 64 + 0x80) % 64 = n := by omega
  rw [scan.eq_def]
  simp only [UInt8.lt_iff_toNat_lt, UInt8.le_iff_toNat_le, second_of_three_iff,
    is_continuation_iff, low6, lead, second, third, value, UInt8.reduceToNat]
  rw [if_neg (by omega), if_neg (by simp), if_pos (by simp; omega),
    if_pos (by constructor <;> split <;> omega), if_pos (by omega)]

private theorem scan_four {n : Nat} (low : 0x10000 ≤ n) (high : n < 0x110000) (rest : Bytes) :
    scan (UInt8.ofNat (n / 262144 % 8 + 0xF0) :: UInt8.ofNat (n / 4096 % 64 + 0x80) ::
        UInt8.ofNat (n / 64 % 64 + 0x80) :: UInt8.ofNat (n % 64 + 0x80) :: rest) =
      some (Char.ofNat n) :: scan rest := by
  have lead := byte_value (n := n / 262144 % 8 + 0xF0) (by omega)
  have second := byte_value (n := n / 4096 % 64 + 0x80) (by omega)
  have third := byte_value (n := n / 64 % 64 + 0x80) (by omega)
  have fourth := byte_value (n := n % 64 + 0x80) (by omega)
  have value : (n / 262144 % 8 + 0xF0) % 8 * 262144 + (n / 4096 % 64 + 0x80) % 64 * 4096 +
      (n / 64 % 64 + 0x80) % 64 * 64 + (n % 64 + 0x80) % 64 = n := by omega
  rw [scan.eq_def]
  simp only [UInt8.lt_iff_toNat_lt, UInt8.le_iff_toNat_le, second_of_four_iff,
    is_continuation_iff, low6, lead, second, third, fourth, value, UInt8.reduceToNat]
  rw [if_neg (by omega), if_neg (by simp), if_neg (by simp), if_pos (by simp; omega),
    if_pos (by constructor <;> split <;> omega), if_pos (by omega), if_pos (by omega)]

/-- The scan takes the bytes of a character as that character, whatever follows. -/
theorem scan_char (c : Char) (rest : Bytes) :
    scan (String.utf8EncodeChar c ++ rest) = some c :: scan rest := by
  have scalar : c.toNat < 0xD800 ∨ 0xDFFF < c.toNat ∧ c.toNat < 0x110000 := c.valid
  have again : some c = some (Char.ofNat c.toNat) := by rw [Char.ofNat_toNat]
  unfold String.utf8EncodeChar
  simp only [again, Char.toNat_val]
  split
  · exact scan_one (n := c.toNat) (by omega) rest
  · split
    · exact scan_two (n := c.toNat) (by omega) (by omega) rest
    · split
      · exact scan_three (n := c.toNat) (by omega) (by omega) (by omega) rest
      · exact scan_four (n := c.toNat) (by omega) (by omega) rest

/-! ## Reading and writing -/

/-- Every text can be read back from its bytes. -/
theorem decode_encode (text : String) : decode? (encode text) = some text := by
  have read : ∀ chars : List Char,
      (scan (chars.flatMap String.utf8EncodeChar)).mapM id = some chars := by
    intro chars
    induction chars with
    | nil => rfl
    | cons c rest ih => simp [scan_char, ih]
  rw [decode?, encode_chars, read, Option.map_some, String.ofList_toList]

theorem encode_injective {first second : String} (same : encode first = encode second) :
    first = second := by
  have read := congrArg decode? same
  rwa [decode_encode, decode_encode, Option.some.injEq] at read

/-! ## ASCII -/

/-- An ASCII character is the byte of its number. -/
theorem ascii_char {c : Char} (ascii : c.toNat < 0x80) :
    String.utf8EncodeChar c = [UInt8.ofNat c.toNat] := by
  unfold String.utf8EncodeChar
  simp only [Char.toNat_val]
  rw [if_pos (by omega)]

/-- No byte of another character is ASCII. -/
theorem no_ascii_byte {c : Char} (beyond : 0x80 ≤ c.toNat) :
    ∀ b ∈ String.utf8EncodeChar c, 0x80 ≤ b.toNat := by
  unfold String.utf8EncodeChar
  simp only [Char.toNat_val]
  rw [if_neg (by omega)]
  split
  · simp only [List.forall_mem_cons, UInt8.toNat_ofNat']
    exact ⟨by omega, by omega, by simp⟩
  · split
    · simp only [List.forall_mem_cons, UInt8.toNat_ofNat']
      exact ⟨by omega, by omega, by omega, by simp⟩
    · simp only [List.forall_mem_cons, UInt8.toNat_ofNat']
      exact ⟨by omega, by omega, by omega, by omega, by simp⟩

theorem ascii_number : ∀ n < 0x80, (Char.ofNat n).toNat = n := by decide

/-- Bytes that are ASCII are those of the characters with their numbers. -/
theorem encode_ascii {bytes : Bytes} (ascii : ∀ b ∈ bytes, b.toNat < 0x80) :
    encode (String.ofList (bytes.map fun b => Char.ofNat b.toNat)) = bytes := by
  rw [encode_of_list]
  induction bytes with
  | nil => rfl
  | cons b rest ih =>
    obtain ⟨first, others⟩ := List.forall_mem_cons.mp ascii
    have number := ascii_number b.toNat first
    rw [List.map_cons, List.flatMap_cons, ih others, ascii_char (by omega), number,
      UInt8.ofNat_toNat]
    rfl

/-- The byte of an ASCII character stands in a text only where the character does. -/
theorem mem_of_ascii_byte {c : Char} {text : String} (ascii : c.toNat < 0x80)
    (member : UInt8.ofNat c.toNat ∈ encode text) : c ∈ text.toList := by
  rw [encode_chars] at member
  obtain ⟨other, held, inside⟩ := List.mem_flatMap.mp member
  have byte : (UInt8.ofNat c.toNat).toNat = c.toNat := byte_value (by omega)
  have otherAscii : other.toNat < 0x80 := by
    apply Nat.lt_of_not_le
    intro beyond
    have high := no_ascii_byte beyond _ inside
    omega
  rw [ascii_char otherAscii, List.mem_singleton] at inside
  have same : c.toNat = other.toNat := by
    have numbers := congrArg UInt8.toNat inside
    rwa [byte, byte_value (by omega)] at numbers
  rwa [Char.toNat_inj.mp same]

end Gatehouse.Utf8
