import Gatehouse.Proofs.Json.Tokens

/-!
Strings piece by piece. The grammar builds what stands between two quotes from bytes that stand for
themselves and from escapes; what the pieces spell is said here without the reader. The reader then
takes exactly that, and refuses what spells no text, wherever the string stands.
-/
namespace Gatehouse.Json
open Utf8

/-- What a reader has to do in front of a token behind which `rest` stands: to take the value of the
token and to stop at `rest`, or to refuse where the token has none. -/
def Answers {α : Type} (value : Option α) (rest : Bytes) (outcome : Except Stop (α × Cursor)) :
    Prop :=
  match value with
  | some a => ∃ after : Cursor, after.rest = rest ∧ outcome = .ok (a, after)
  | none => ∃ stop, outcome = .error stop

/-- A byte that stands for itself in a string. -/
def IsPlainInString (b : UInt8) : Prop := b ≠ 0x22 ∧ b ≠ 0x5C ∧ ¬ b < 0x20

instance (b : UInt8) : Decidable (IsPlainInString b) := inferInstanceAs (Decidable (_ ∧ _ ∧ _))

/-- A piece of a string: a byte that stands for itself, a backslash with a letter for a character, or
a backslash and `u` with four hexadecimal digits. -/
inductive Piece where
  | plain (byte : UInt8)
  | short (letter : UInt8) (char : Char)
  | code (first second third fourth : UInt8)

namespace Piece

/-- The letters behind a backslash, with what they stand for. -/
def shortEscapes : List (UInt8 × Char) :=
  [(0x22, '"'), (0x5C, '\\'), (0x2F, '/'), (0x62, '\x08'), (0x66, '\x0c'), (0x6E, '\n'),
    (0x72, '\r'), (0x74, '\t')]

def hexDigit? (byte : UInt8) : Option Nat := Numeral.hexValue? (Char.ofNat byte.toNat)

/-- The number that four hexadecimal digits write. -/
@[irreducible] def unit (first second third fourth : UInt8) : Nat :=
  (hexDigit? first).getD 0 * 4096 + (hexDigit? second).getD 0 * 256 +
    (hexDigit? third).getD 0 * 16 + (hexDigit? fourth).getD 0

def bytes : Piece → Bytes
  | plain byte => [byte]
  | short letter _ => [0x5C, letter]
  | code first second third fourth => [0x5C, 0x75, first, second, third, fourth]

/-- What the grammar allows between two quotes. -/
def IsFormed : Piece → Prop
  | plain byte => IsPlainInString byte
  | short letter char => (letter, char) ∈ shortEscapes
  | code first second third fourth =>
    ∀ digit ∈ [first, second, third, fourth], (hexDigit? digit).isSome

instance : ∀ piece : Piece, Decidable piece.IsFormed
  | plain byte => inferInstanceAs (Decidable (IsPlainInString byte))
  | short letter char => inferInstanceAs (Decidable ((letter, char) ∈ shortEscapes))
  | code first second third fourth =>
    inferInstanceAs (Decidable (∀ digit ∈ [first, second, third, fourth], (hexDigit? digit).isSome))

end Piece

open Piece

/-- The bytes between the quotes. -/
def piecesBytes (pieces : List Piece) : Bytes := pieces.flatMap Piece.bytes

/-- The first and the second half of a character beyond 16 bits. -/
def IsHighHalf (unit : Nat) : Prop := 0xD800 ≤ unit ∧ unit ≤ 0xDBFF
def IsLowHalf (unit : Nat) : Prop := 0xDC00 ≤ unit ∧ unit ≤ 0xDFFF

instance (unit : Nat) : Decidable (IsHighHalf unit) := inferInstanceAs (Decidable (_ ∧ _))
instance (unit : Nat) : Decidable (IsLowHalf unit) := inferInstanceAs (Decidable (_ ∧ _))

/-- The character of two halves. -/
def joined (high low : Nat) : Char := Char.ofNat ((high - 0xD800) * 1024 + (low - 0xDC00) + 0x10000)

/-- The bytes that the pieces spell. Halves of a character have to come in pairs. -/
def spelledBytes? : List Piece → Option Bytes
  | [] => some []
  | .plain byte :: more => (spelledBytes? more).map (byte :: ·)
  | .short _ char :: more => (spelledBytes? more).map (encode char.toString ++ ·)
  | .code a b d e :: more =>
    if IsLowHalf (unit a b d e) then none
    else if IsHighHalf (unit a b d e) then
      match more with
      | .code a' b' d' e' :: more =>
        if IsLowHalf (unit a' b' d' e') then
          (spelledBytes? more).map
            (encode (joined (unit a b d e) (unit a' b' d' e')).toString ++ ·)
        else none
      | _ => none
    else (spelledBytes? more).map (encode (Char.ofNat (unit a b d e)).toString ++ ·)

/-- The text that the pieces spell. -/
def spelled? (pieces : List Piece) : Option String := (spelledBytes? pieces).bind decode?

/-- Every piece has a byte at least. -/
theorem pieces_length (pieces : List Piece) : pieces.length ≤ (piecesBytes pieces).length := by
  induction pieces with
  | nil => exact Nat.zero_le _
  | cons piece more ih =>
    have filled : 0 < piece.bytes.length := by cases piece <;> simp [Piece.bytes]
    simp only [piecesBytes, List.flatMap_cons, List.length_append, List.length_cons] at ih ⊢
    omega

namespace Cursor

variable {c : Cursor} {rest : Bytes}

/-! ## Escapes -/

private theorem hex_escape_formed {a b d e : UInt8} (formed : (Piece.code a b d e).IsFormed)
    (here : c.rest = a :: b :: d :: e :: rest) :
    ∃ after : Cursor, after.rest = rest ∧ c.hexEscape = .ok (unit a b d e, after) := by
  simp only [IsFormed, List.forall_mem_cons, Option.isSome_iff_exists] at formed
  obtain ⟨⟨first, one⟩, ⟨second, two⟩, ⟨third, three⟩, ⟨fourth, four⟩, -⟩ := formed
  refine ⟨⟨rest, c.next.next.next.next.line, c.next.next.next.next.column⟩, rfl, ?_⟩
  rw [hexEscape, here]
  simp only [hexDigit?] at one two three four
  simp only [one, two, three, four, unit, hexDigit?, Option.getD_some]

private theorem short_escape_read {letter : UInt8} {char : Char}
    (formed : (Piece.short letter char).IsFormed) (here : c.rest = letter :: rest) :
    letter ≠ 0x75 ∧ c.escaped = .ok (char, c.next) := by
  simp only [IsFormed, shortEscapes, List.mem_cons, Prod.mk.injEq, List.not_mem_nil, or_false]
    at formed
  unfold escaped
  rw [here]
  rcases formed with ⟨rfl, rfl⟩ | ⟨rfl, rfl⟩ | ⟨rfl, rfl⟩ | ⟨rfl, rfl⟩ | ⟨rfl, rfl⟩ | ⟨rfl, rfl⟩ |
    ⟨rfl, rfl⟩ | ⟨rfl, rfl⟩ <;> exact ⟨by decide, rfl⟩

/-- The letter `u` hands over to the reader of four digits. -/
private theorem code_escaped {letter : Bytes} (here : c.rest = 0x75 :: letter) :
    c.escaped = c.next.unicodeEscape := by
  unfold escaped
  rw [here]
  rfl

/-- A second half without a first one is refused. -/
private theorem low_half_escaped {a b d e : UInt8} (formed : (Piece.code a b d e).IsFormed)
    (low : IsLowHalf (unit a b d e)) (here : c.rest = 0x75 :: a :: b :: d :: e :: rest) :
    ∃ stop, c.escaped = .error stop := by
  obtain ⟨after, -, hex⟩ := hex_escape_formed formed (next_rest here)
  have isLow : (0xDC00 ≤ unit a b d e && unit a b d e ≤ 0xDFFF) = true := by
    simpa [IsLowHalf] using low
  simp only [code_escaped here, unicodeEscape, hex, bind, Except.bind, isLow, if_true]
  exact ⟨_, rfl⟩

/-- Digits that write no half of a character write a whole one. -/
private theorem whole_escaped {a b d e : UInt8} (formed : (Piece.code a b d e).IsFormed)
    (notLow : ¬ IsLowHalf (unit a b d e)) (notHigh : ¬ IsHighHalf (unit a b d e))
    (here : c.rest = 0x75 :: a :: b :: d :: e :: rest) :
    ∃ after : Cursor, after.rest = rest ∧ c.escaped = .ok (Char.ofNat (unit a b d e), after) := by
  obtain ⟨after, left, hex⟩ := hex_escape_formed formed (next_rest here)
  have isLow : (0xDC00 ≤ unit a b d e && unit a b d e ≤ 0xDFFF) = false := by
    simpa [IsLowHalf] using notLow
  have whole : (unit a b d e < 0xD800 || 0xDBFF < unit a b d e) = true := by
    simp only [IsHighHalf] at notHigh
    simp
    omega
  refine ⟨after, left, ?_⟩
  simp only [code_escaped here, unicodeEscape, hex, bind, Except.bind, isLow, whole,
    Bool.false_eq_true, if_false, if_true]
  rfl

private theorem high_half {unit : Nat} (high : IsHighHalf unit) :
    (0xDC00 ≤ unit && unit ≤ 0xDFFF) = false ∧ (unit < 0xD800 || 0xDBFF < unit) = false := by
  simp only [IsHighHalf] at high
  simp
  omega

/-- The second half of a character completes it. -/
private theorem halves_escaped {a b d e a' b' d' e' : UInt8}
    (formed : (Piece.code a b d e).IsFormed) (formed' : (Piece.code a' b' d' e').IsFormed)
    (high : IsHighHalf (unit a b d e)) (here : c.rest =
      0x75 :: a :: b :: d :: e :: 0x5C :: 0x75 :: a' :: b' :: d' :: e' :: rest) :
    ∃ after : Cursor, after.rest = rest ∧ c.escaped =
      if IsLowHalf (unit a' b' d' e') then .ok (joined (unit a b d e) (unit a' b' d' e'), after)
      else after.failHere .loneSurrogate := by
  obtain ⟨middle, left, hex⟩ := hex_escape_formed formed (next_rest here)
  obtain ⟨isLow, half⟩ := high_half high
  have behind := next_rest left
  obtain ⟨after, ended, hex'⟩ := hex_escape_formed formed' (next_rest behind)
  refine ⟨after, ended, ?_⟩
  simp only [code_escaped here, unicodeEscape, hex, bind, Except.bind, isLow, half,
    Bool.false_eq_true, if_false, left, List.head?_cons, behind, hex']
  by_cases low : IsLowHalf (unit a' b' d' e')
  · have fits : (unit a' b' d' e' < 0xDC00 || 0xDFFF < unit a' b' d' e') = false := by
      simpa [IsLowHalf] using low
    simp only [fits, low, Bool.false_eq_true, if_false, if_true]
    rfl
  · have misses : (unit a' b' d' e' < 0xDC00 || 0xDFFF < unit a' b' d' e') = true := by
      simp only [IsLowHalf] at low
      simp
      omega
    simp only [misses, low, if_false, if_true]

/-- Behind the first half of a character nothing but another hexadecimal escape may stand. -/
private theorem half_alone {a b d e : UInt8} {behind : Bytes}
    (formed : (Piece.code a b d e).IsFormed) (high : IsHighHalf (unit a b d e))
    (here : c.rest = 0x75 :: a :: b :: d :: e :: behind)
    (alone : ∀ more, behind ≠ 0x5C :: 0x75 :: more) : ∃ stop, c.escaped = .error stop := by
  obtain ⟨after, left, hex⟩ := hex_escape_formed formed (next_rest here)
  obtain ⟨isLow, half⟩ := high_half high
  simp only [code_escaped here, unicodeEscape, hex, bind, Except.bind, isLow, half,
    Bool.false_eq_true, if_false, left]
  match behind with
  | [] => exact ⟨_, rfl⟩
  | first :: more =>
    by_cases backslash : first = 0x5C
    · subst backslash
      simp only [List.head?_cons, next_rest left]
      match more with
      | [] => exact ⟨_, rfl⟩
      | letter :: others =>
        have notLong : letter ≠ 0x75 := fun same => alone others (by rw [same])
        simp only [List.head?_cons]
        exact ⟨_, rfl⟩
    · simp only [List.head?_cons]
      exact ⟨_, rfl⟩

/-! ## Strings -/

/-- What a piece spells comes in front of what the pieces behind it spell. -/
private theorem chunk_in_front (chunk : Bytes) {taken : Bytes} {spelled : Option Bytes}
    {outcome : Except Stop (Bytes × Cursor)}
    (answers : Answers (spelled.map (·.reverse ++ (chunk.reverse ++ taken))) rest outcome) :
    Answers ((spelled.map (chunk ++ ·)).map (·.reverse ++ taken)) rest outcome := by
  cases spelled with
  | none => exact answers
  | some bytes => simpa [Answers] using answers

/-- The reader of the bytes between two quotes, given what it makes of the first escape. -/
private theorem escape_read {char : Char} {after : Cursor} {behind taken : Bytes} {bound : Nat}
    (here : c.rest = 0x5C :: behind) (escape : c.next.escaped = .ok (char, after)) :
    stringBytes (bound + 1) c taken =
      stringBytes bound after ((encode char.toString).reverse ++ taken) := by
  rw [stringBytes, here]
  simp [escape]

private theorem escape_refused {stop : Stop} {behind taken : Bytes} {bound : Nat}
    (here : c.rest = 0x5C :: behind) (escape : c.next.escaped = .error stop) :
    stringBytes (bound + 1) c taken = .error stop := by
  rw [stringBytes, here]
  simp [escape]

/-- Where the next piece is no hexadecimal escape, none stands there. -/
private theorem no_code_behind {pieces : List Piece} (formed : ∀ piece ∈ pieces, piece.IsFormed)
    (other : ∀ a b d e more, pieces = .code a b d e :: more → False) (more : Bytes) :
    piecesBytes pieces ++ 0x22 :: rest ≠ 0x5C :: 0x75 :: more := by
  match pieces with
  | [] => simp [piecesBytes]
  | .plain byte :: _ =>
    have plain : IsPlainInString byte := formed _ List.mem_cons_self
    simp [piecesBytes, Piece.bytes, plain.2.1]
  | .short letter char :: _ =>
    have known : (letter, char) ∈ shortEscapes := formed _ List.mem_cons_self
    have notLong : ∀ entry ∈ shortEscapes, entry.1 ≠ 0x75 := by decide
    simp [piecesBytes, Piece.bytes, notLong _ known]
  | .code a b d e :: more => exact absurd rfl (other a b d e more)

private theorem string_bytes_spelled {pieces : List Piece}
    (formed : ∀ piece ∈ pieces, piece.IsFormed)
    (here : c.rest = piecesBytes pieces ++ 0x22 :: rest) {bound : Nat}
    (enough : pieces.length < bound) (taken : Bytes) :
    Answers ((spelledBytes? pieces).map (·.reverse ++ taken)) (0x22 :: rest)
      (stringBytes bound c taken) := by
  fun_induction spelledBytes? pieces generalizing c bound taken with
  | case1 =>
    obtain ⟨spare, rfl⟩ := Nat.exists_eq_add_of_lt enough
    refine ⟨c, here, ?_⟩
    rw [stringBytes, here]
    rfl
  | case2 byte more ih =>
    obtain ⟨⟨notQuote, notEscape, notControl⟩, others⟩ := List.forall_mem_cons.mp formed
    obtain ⟨spare, rfl⟩ : ∃ spare, bound = spare + 1 := ⟨bound - 1, by omega⟩
    have behind : c.next.rest = piecesBytes more ++ 0x22 :: rest := next_rest here
    have taking : stringBytes (spare + 1) c taken = stringBytes spare c.next (byte :: taken) := by
      rw [stringBytes, here]
      simp [piecesBytes, Piece.bytes, notQuote, notEscape, notControl]
    rw [taking]
    exact chunk_in_front [byte] (ih others behind (Nat.lt_of_succ_lt_succ enough) _)
  | case3 letter char more ih =>
    obtain ⟨piece, others⟩ := List.forall_mem_cons.mp formed
    obtain ⟨spare, rfl⟩ : ∃ spare, bound = spare + 1 := ⟨bound - 1, by omega⟩
    have behind := next_rest here
    rw [escape_read here (short_escape_read piece behind).2]
    exact chunk_in_front _ (ih others (next_rest behind) (Nat.lt_of_succ_lt_succ enough) _)
  | case4 a b d e more low =>
    obtain ⟨piece, -⟩ := List.forall_mem_cons.mp formed
    obtain ⟨spare, rfl⟩ : ∃ spare, bound = spare + 1 := ⟨bound - 1, by omega⟩
    obtain ⟨stop, refused⟩ := low_half_escaped piece low (next_rest here)
    exact ⟨stop, escape_refused here refused⟩
  | case5 a b d e notLow high a' b' d' e' more low ih =>
    obtain ⟨piece, others⟩ := List.forall_mem_cons.mp formed
    obtain ⟨second, others⟩ := List.forall_mem_cons.mp others
    obtain ⟨spare, rfl⟩ : ∃ spare, bound = spare + 1 := ⟨bound - 1, by omega⟩
    obtain ⟨after, left, read⟩ := halves_escaped piece second high (next_rest here)
    rw [if_pos low] at read
    have fewer : more.length < spare := by
      simp only [List.length_cons] at enough
      omega
    rw [escape_read here read]
    exact chunk_in_front _ (ih others left fewer _)
  | case6 a b d e notLow high a' b' d' e' more notLow' =>
    obtain ⟨piece, others⟩ := List.forall_mem_cons.mp formed
    obtain ⟨second, -⟩ := List.forall_mem_cons.mp others
    obtain ⟨spare, rfl⟩ : ∃ spare, bound = spare + 1 := ⟨bound - 1, by omega⟩
    obtain ⟨after, -, refused⟩ := halves_escaped piece second high (next_rest here)
    rw [if_neg notLow'] at refused
    exact ⟨_, escape_refused here refused⟩
  | case7 a b d e more notLow high other =>
    obtain ⟨piece, others⟩ := List.forall_mem_cons.mp formed
    obtain ⟨spare, rfl⟩ : ∃ spare, bound = spare + 1 := ⟨bound - 1, by omega⟩
    obtain ⟨stop, refused⟩ := half_alone piece high (next_rest here)
      (no_code_behind others other)
    exact ⟨stop, escape_refused here refused⟩
  | case8 a b d e more notLow notHigh ih =>
    obtain ⟨piece, others⟩ := List.forall_mem_cons.mp formed
    obtain ⟨spare, rfl⟩ : ∃ spare, bound = spare + 1 := ⟨bound - 1, by omega⟩
    obtain ⟨after, left, read⟩ := whole_escaped piece notLow notHigh (next_rest here)
    rw [escape_read here read]
    exact chunk_in_front _ (ih others left (Nat.lt_of_succ_lt_succ enough) _)

/-- A string behind its opening quote is the text that its pieces spell, or it is refused. -/
theorem string_answers {pieces : List Piece} (formed : ∀ piece ∈ pieces, piece.IsFormed)
    (here : c.rest = piecesBytes pieces ++ 0x22 :: rest) :
    Answers (spelled? pieces) rest c.string := by
  have room : pieces.length < c.rest.length + 1 := by
    have := pieces_length pieces
    simp only [here, List.length_append, List.length_cons]
    omega
  have read := string_bytes_spelled formed here room []
  unfold string spelled?
  cases spelled : spelledBytes? pieces with
  | none =>
    rw [spelled] at read
    obtain ⟨stop, refused⟩ := read
    exact ⟨stop, by rw [refused]; rfl⟩
  | some bytes =>
    rw [spelled] at read
    obtain ⟨quote, left, taken⟩ := read
    simp only [taken, bind, Except.bind, List.append_nil, List.reverse_reverse, Option.bind_some]
    cases decode? bytes with
    | none => exact ⟨_, rfl⟩
    | some text => exact ⟨quote.next, next_rest left, rfl⟩

/-- Passing over a string takes no notice of what its pieces spell. -/
theorem skip_string_formed {pieces : List Piece} (formed : ∀ piece ∈ pieces, piece.IsFormed)
    (here : c.rest = piecesBytes pieces ++ 0x22 :: rest) {bound : Nat}
    (enough : pieces.length < bound) :
    ∃ after : Cursor, after.rest = rest ∧ skipString bound c = .ok after := by
  induction pieces generalizing c bound with
  | nil =>
    obtain ⟨spare, rfl⟩ := Nat.exists_eq_add_of_lt enough
    refine ⟨c.next, next_rest here, ?_⟩
    rw [skipString, here]
    rfl
  | cons piece more ih =>
    obtain ⟨first, others⟩ := List.forall_mem_cons.mp formed
    obtain ⟨spare, rfl⟩ : ∃ spare, bound = spare + 1 := ⟨bound - 1, by omega⟩
    have fewer : more.length < spare := Nat.lt_of_succ_lt_succ enough
    cases piece with
    | plain byte =>
      obtain ⟨notQuote, notEscape, notControl⟩ := first
      obtain ⟨after, left, skipped⟩ := ih others (next_rest here) fewer
      refine ⟨after, left, ?_⟩
      rw [skipString, here]
      simpa [piecesBytes, Piece.bytes, notQuote, notEscape, notControl] using skipped
    | short letter char =>
      have behind := next_rest here
      obtain ⟨notLong, read⟩ := short_escape_read first behind
      obtain ⟨after, left, skipped⟩ := ih others (next_rest behind) fewer
      refine ⟨after, left, ?_⟩
      rw [skipString, here]
      simpa [piecesBytes, Piece.bytes, behind, notLong, read] using skipped
    | code a b d e =>
      have behind := next_rest here
      obtain ⟨middle, atRest, hex⟩ := hex_escape_formed first (next_rest behind)
      obtain ⟨after, left, skipped⟩ := ih others atRest fewer
      refine ⟨after, left, ?_⟩
      rw [skipString, here]
      simpa [piecesBytes, Piece.bytes, behind, hex] using skipped

/-! ## Written strings -/

private theorem plain_pieces {bytes : Bytes} (more : List Piece) :
    piecesBytes (bytes.map Piece.plain) = bytes ∧
      spelledBytes? (bytes.map Piece.plain ++ more) = (spelledBytes? more).map (bytes ++ ·) := by
  induction bytes with
  | nil => simp [piecesBytes]
  | cons b rest ih =>
    simp only [piecesBytes] at ih ⊢
    simp [spelledBytes?, ih, Piece.bytes, Function.comp_def]

/-- The byte of a hexadecimal digit. -/
private def hexByte (k : Nat) : UInt8 := UInt8.ofNat (Nat.digitChar k).toNat

private theorem hex_digit : ∀ k < 16,
    String.utf8EncodeChar (Nat.digitChar k) = [hexByte k] ∧ hexDigit? (hexByte k) = some k := by
  decide

/-- Four hexadecimal digits of a number write that number. -/
private theorem padded_unit {n : Nat} (small : n < 65536) : ∃ a b d e,
    (Numeral.hexPadded 4 n).flatMap String.utf8EncodeChar = [a, b, d, e] ∧
      (Piece.code a b d e).IsFormed ∧ unit a b d e = n := by
  have padded : Numeral.hexPadded 4 n = [Nat.digitChar (n / 4096 % 16), Nat.digitChar (n / 256 % 16),
      Nat.digitChar (n / 16 % 16), Nat.digitChar (n % 16)] := by
    simp [Numeral.hexPadded, List.range_succ]
  obtain ⟨firstByte, first⟩ := hex_digit (n / 4096 % 16) (by omega)
  obtain ⟨secondByte, second⟩ := hex_digit (n / 256 % 16) (by omega)
  obtain ⟨thirdByte, third⟩ := hex_digit (n / 16 % 16) (by omega)
  obtain ⟨fourthByte, fourth⟩ := hex_digit (n % 16) (by omega)
  refine ⟨hexByte (n / 4096 % 16), hexByte (n / 256 % 16), hexByte (n / 16 % 16), hexByte (n % 16),
    ?_, ?_, ?_⟩
  · simp only [padded, List.flatMap_cons, List.flatMap_nil, firstByte, secondByte, thirdByte,
      fourthByte, List.cons_append, List.nil_append]
  · simp [IsFormed, first, second, third, fourth]
  · simp only [unit, first, second, third, fourth, Option.getD_some]
    omega

/-- A character that needs no escape is written with bytes that stand for themselves. -/
private theorem plain_char {char : Char} (notQuote : char ≠ '"') (notEscape : char ≠ '\\')
    (notControl : 0x20 ≤ char.toNat) : ∀ b ∈ String.utf8EncodeChar char, IsPlainInString b := by
  by_cases ascii : char.toNat < 0x80
  · have number := UInt8.toNat_ofNat_of_lt' (show char.toNat < 256 by omega)
    have differs : ∀ other : Char, char ≠ other → char.toNat ≠ other.toNat :=
      fun other different same => different (Char.toNat_inj.mp same)
    have quote := differs _ notQuote
    have escape := differs _ notEscape
    rw [ascii_char ascii, List.forall_mem_singleton]
    simp only [IsPlainInString, ne_eq, ← UInt8.toNat_inj, UInt8.lt_iff_toNat_lt, number]
    exact ⟨quote, escape, Nat.not_lt.mpr notControl⟩
  · intro b member
    have high := no_ascii_byte (Nat.not_lt.mp ascii) b member
    simp only [IsPlainInString, ne_eq, ← UInt8.toNat_inj, UInt8.lt_iff_toNat_lt, UInt8.reduceToNat]
    omega

/-- A written character is spelled by pieces. -/
private theorem char_pieces (char : Char) : ∃ pieces, (∀ piece ∈ pieces, piece.IsFormed) ∧
    piecesBytes pieces = encode (escape char) ∧ ∀ more, spelledBytes? (pieces ++ more) =
      (spelledBytes? more).map (String.utf8EncodeChar char ++ ·) := by
  rcases escape_bytes char with ⟨bytes, notQuote, notEscape, notControl⟩ | ⟨letter, bytes, known⟩ |
    ⟨control, bytes⟩
  · refine ⟨(String.utf8EncodeChar char).map Piece.plain, ?_, ?_, fun more => ?_⟩
    · rw [List.forall_mem_map]
      exact plain_char notQuote notEscape notControl
    · rw [bytes]
      exact (plain_pieces []).1
    · exact (plain_pieces more).2
  · refine ⟨[.short letter char], ?_, ?_, fun more => ?_⟩
    · rw [List.forall_mem_singleton]
      have wider : ∀ entry ∈ [((0x22 : UInt8), '"'), (0x5C, '\\'), (0x62, '\x08'), (0x66, '\x0c'),
          (0x6E, '\n'), (0x72, '\r'), (0x74, '\t')], entry ∈ shortEscapes := by decide
      exact wider _ known
    · rw [bytes]
      rfl
    · simp [spelledBytes?, encode_singleton]
  · obtain ⟨a, b, d, e, digits, formed, number⟩ := padded_unit (n := char.toNat) (by omega)
    have notLow : ¬ IsLowHalf char.toNat := by
      simp only [IsLowHalf]
      omega
    have notHigh : ¬ IsHighHalf char.toNat := by
      simp only [IsHighHalf]
      omega
    refine ⟨[.code a b d e], List.forall_mem_singleton.mpr formed, ?_, fun more => ?_⟩
    · rw [bytes, digits]
      rfl
    · rw [List.singleton_append, spelledBytes?.eq_def]
      simp [notLow, notHigh, number, encode_singleton]

/-- A written text is spelled by pieces. -/
theorem quoted_pieces (text : String) : ∃ pieces, (∀ piece ∈ pieces, piece.IsFormed) ∧
    piecesBytes pieces = escapedBytes text.toList ∧ spelled? pieces = some text := by
  have chars : ∀ chars : List Char, ∃ pieces, (∀ piece ∈ pieces, piece.IsFormed) ∧
      piecesBytes pieces = escapedBytes chars ∧
      spelledBytes? pieces = some (chars.flatMap String.utf8EncodeChar) := by
    intro chars
    induction chars with
    | nil => exact ⟨[], by simp, rfl, rfl⟩
    | cons char more ih =>
      obtain ⟨first, formedFirst, bytesFirst, spells⟩ := char_pieces char
      obtain ⟨others, formedOthers, bytesOthers, spelledOthers⟩ := ih
      refine ⟨first ++ others, ?_, ?_, ?_⟩
      · rw [List.forall_mem_append]
        exact ⟨formedFirst, formedOthers⟩
      · simp only [piecesBytes, escapedBytes, List.flatMap_append, List.flatMap_cons] at *
        rw [bytesFirst, bytesOthers]
      · rw [spells, spelledOthers]
        rfl
  obtain ⟨pieces, formed, bytes, spelled⟩ := chars text.toList
  refine ⟨pieces, formed, bytes, ?_⟩
  rw [spelled?, spelled, ← encode_chars, Option.bind_some, decode_encode]

/-- A string behind its opening quote is read as the text that was written, and can be passed over. -/
theorem string_reads (text : String)
    (here : c.rest = escapedBytes text.toList ++ 0x22 :: rest) :
    ∃ after : Cursor, after.rest = rest ∧ c.string = .ok (text, after) := by
  obtain ⟨pieces, formed, bytes, spelled⟩ := quoted_pieces text
  rw [← bytes] at here
  have read := string_answers formed here
  rw [spelled] at read
  exact read

end Cursor
end Gatehouse.Json
