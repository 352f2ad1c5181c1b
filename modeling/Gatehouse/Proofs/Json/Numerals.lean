import Gatehouse.Proofs.Json.Spelling
import Mathlib.Algebra.Group.Int.Defs
import Mathlib.Algebra.Group.Nat.Defs

/-!
Numerals as the grammar has them, and what reading makes of them. A whole numeral of 64 bits is the
number that its digits write; every other one is a floating number, or is refused, and which of them
does not depend on where the numeral stands. Passing over a numeral never fails.
-/
namespace Gatehouse.Json
open Utf8

/-! ## Digits -/

/-- The byte of a decimal digit. -/
def digit (k : Nat) : UInt8 := UInt8.ofNat (0x30 + k)

/-- The digits of a number, as bytes. -/
def digits (n : Nat) : Bytes := (Nat.toDigits 10 n).flatMap String.utf8EncodeChar

private theorem digit_char : ∀ k < 10, String.utf8EncodeChar (Nat.digitChar k) = [digit k] := by
  decide

theorem digit_is_digit : ∀ k < 10,
    Cursor.isDigit (digit k) ∧ (digit k).toNat - 0x30 = k ∧ (digit k = 0x30 ↔ k = 0) := by decide

theorem digits_short {n : Nat} (short : n < 10) : digits n = [digit n] := by
  rw [digits, Nat.toDigits_of_lt_base short, List.flatMap_singleton, digit_char n short]

theorem digits_long {n : Nat} (long : 10 ≤ n) : digits n = digits (n / 10) ++ [digit (n % 10)] := by
  rw [digits, Nat.toDigits_of_base_le (by decide) long, List.flatMap_append,
    List.flatMap_singleton, digit_char (n % 10) (Nat.mod_lt n (by decide))]
  rfl

/-- A numeral starts with a digit, which is a zero only in the numeral of zero. -/
theorem digits_head (n : Nat) : ∃ k < 10, ∃ more, digits n = digit k :: more ∧
    (k = 0 → n = 0 ∧ more = []) := by
  induction n using Nat.strongRecOn with
  | ind n ih =>
    by_cases short : n < 10
    · exact ⟨n, short, [], digits_short short, fun zero => ⟨zero, rfl⟩⟩
    · obtain ⟨k, small, more, shape, onlyZero⟩ := ih (n / 10) (by omega)
      refine ⟨k, small, more ++ [digit (n % 10)], ?_, fun zero => ?_⟩
      · rw [digits_long (Nat.not_lt.mp short), shape, List.cons_append]
      · have := (onlyZero zero).1
        omega

theorem decimal_bytes (n : Nat) : encode (Numeral.decimal n) = digits n := by
  rw [Numeral.decimal, Nat.toString_eq_ofList_toDigits, encode_of_list, digits]

private theorem encode_minus : encode "-" = [0x2D] := encode_of_list ['-']

theorem signed_bytes (n : Int) :
    encode (Numeral.signed n) = if n < 0 then 0x2D :: digits n.natAbs else digits n.natAbs := by
  unfold Numeral.signed
  split
  · rw [encode_append, encode_minus, decimal_bytes]
    rfl
  · exact decimal_bytes _

/-- The number that digits write behind the digits of `n`. -/
def valueFrom (n : Nat) (digits : Bytes) : Nat :=
  digits.foldl (fun n b => n * 10 + (b.toNat - 0x30)) n

theorem value_of_digits (n : Nat) : valueFrom 0 (digits n) = n := by
  induction n using Nat.strongRecOn with
  | ind n ih =>
    by_cases short : n < 10
    · obtain ⟨-, value, -⟩ := digit_is_digit n short
      rw [digits_short short]
      simp [valueFrom, value]
    · obtain ⟨-, value, -⟩ := digit_is_digit (n % 10) (Nat.mod_lt n (by decide))
      have front : valueFrom 0 (digits (n / 10)) = n / 10 := ih (n / 10) (by omega)
      simp only [valueFrom] at front
      rw [digits_long (Nat.not_lt.mp short)]
      simp only [valueFrom, List.foldl_append, List.foldl_cons, List.foldl_nil, front, value]
      omega

theorem le_value_from (n : Nat) (digits : Bytes) : n ≤ valueFrom n digits := by
  induction digits generalizing n with
  | nil => exact Nat.le_refl n
  | cons b more ih =>
    refine Nat.le_trans ?_ (ih (n * 10 + (b.toNat - 0x30)))
    omega

/-! ## The grammar of numbers -/

def AreDigits (text : Bytes) : Prop := ∀ b ∈ text, Cursor.isDigit b = true

/-- A zero alone, or digits that do not start with one. -/
def IsWhole (text : Bytes) : Prop :=
  AreDigits text ∧ ∃ b more, text = b :: more ∧ (b = 0x30 → more = [])

/-- A point with digits, or nothing. -/
def IsFraction (text : Bytes) : Prop :=
  text = [] ∨ ∃ digits, text = 0x2E :: digits ∧ AreDigits digits ∧ digits ≠ []

/-- The letter of a power of ten with a sign and digits, or nothing. -/
def IsPower (text : Bytes) : Prop :=
  text = [] ∨ ∃ letter sign digits, text = letter :: (sign ++ digits) ∧
    (letter = 0x65 ∨ letter = 0x45) ∧ (sign = [] ∨ sign = [0x2B] ∨ sign = [0x2D]) ∧
    AreDigits digits ∧ digits ≠ []

/-- A number without its sign. -/
def IsNumeral (text : Bytes) : Prop :=
  ∃ whole fraction power, text = whole ++ (fraction ++ power) ∧
    IsWhole whole ∧ IsFraction fraction ∧ IsPower power

def IsNumber (text : Bytes) : Prop :=
  IsNumeral text ∨ ∃ numeral, text = 0x2D :: numeral ∧ IsNumeral numeral

/-- The natural number of a numeral that consists of digits alone. -/
def natural? (text : Bytes) : Option Nat :=
  if text.all Cursor.isDigit then some (valueFrom 0 text) else none

/-- What may stand behind a value: the end, a blank, or what separates or closes parts. -/
def Ended (rest : Bytes) : Prop :=
  ∀ b ∈ rest.head?, b ∈ [0x20, 0x09, 0x0A, 0x0D, 0x2C, 0x5D, 0x7D]

/-- No digit stands next. -/
def NoDigit (rest : Bytes) : Prop := rest.head?.any Cursor.isDigit = false

namespace Cursor

variable {c : Cursor} {rest : Bytes}

/-! ## Reading digits -/

/-- Behind a value no numeral goes on. -/
theorem ended_head (ended : Ended rest) : NoDigit rest ∧
    rest.head? ≠ some 0x2E ∧ rest.head? ≠ some 0x65 ∧ rest.head? ≠ some 0x45 := by
  cases rest with
  | nil => simp [NoDigit]
  | cons b more =>
    have notNumeric : ∀ b ∈ [0x20, 0x09, 0x0A, 0x0D, 0x2C, 0x5D, 0x7D],
        isDigit b = false ∧ b ≠ 0x2E ∧ b ≠ 0x65 ∧ b ≠ 0x45 := by decide +kernel
    simpa [NoDigit] using notNumeric b (ended b rfl)

theorem no_digit_at (noDigit : NoDigit c.rest) : c.atDigit = false := noDigit

theorem digit_at {b : UInt8} {more : Bytes} (isDigit : Cursor.isDigit b = true)
    (here : c.rest = b :: more) : c.atDigit = true := by
  simp [atDigit, here, isDigit]

private theorem skip_digits_go {run : Bytes} (digits : AreDigits run) (noDigit : NoDigit rest)
    (line column count : Nat) : ∃ column', skipDigits.go (run ++ rest) line column count =
      (count + run.length, ⟨rest, line, column'⟩) := by
  induction run generalizing column count with
  | nil =>
    refine ⟨column, ?_⟩
    cases rest with
    | nil => rfl
    | cons b more =>
      have stops : isDigit b = false := noDigit
      simp [skipDigits.go, stops]
  | cons b more ih =>
    obtain ⟨first, others⟩ := List.forall_mem_cons.mp digits
    obtain ⟨column', skipped⟩ := ih others (column + 1) (count + 1)
    refine ⟨column', ?_⟩
    rw [List.cons_append, skipDigits.go, if_pos first, skipped, List.length_cons, Nat.add_assoc,
      Nat.add_comm 1]

/-- A run of digits is passed over as a whole. -/
theorem skip_digits {run : Bytes} (digits : AreDigits run) (noDigit : NoDigit rest)
    (here : c.rest = run ++ rest) :
    ∃ after : Cursor, after.rest = rest ∧ c.skipDigits = (run.length, after) := by
  obtain ⟨column', skipped⟩ := skip_digits_go digits noDigit c.line c.column 0
  refine ⟨⟨rest, c.line, column'⟩, rfl, ?_⟩
  rw [skipDigits, here, skipped, Nat.zero_add]

/-- Digits are taken onto `n` as long as the number stays below the limit; `left` are the others. -/
structure Taken (limit n : Nat) (run : Bytes) (m count : Nat) (left : Bytes) : Prop where
  digits : AreDigits left
  whole : left = [] → m = valueFrom n run ∧ count = run.length
  fits : valueFrom n run < limit → left = []
  below : n < limit → left = [] → valueFrom n run < limit

private theorem take_digits_go {run : Bytes} (digits : AreDigits run) (limit n : Nat) :
    ∃ m count left, Taken limit n run m count left ∧ ∀ rest, NoDigit rest →
      ∀ line column taken, ∃ column', takeDigits.go limit (run ++ rest) line column n taken =
        (m, taken + count, ⟨left ++ rest, line, column'⟩) := by
  induction run generalizing n with
  | nil =>
    refine ⟨n, 0, [], ⟨by simp [AreDigits], fun _ => ⟨rfl, rfl⟩, fun _ => rfl, fun below _ => below⟩,
      fun rest noDigit line column taken => ⟨column, ?_⟩⟩
    cases rest with
    | nil => rfl
    | cons b more =>
      have stops : isDigit b = false := noDigit
      simp [takeDigits.go, stops]
  | cons b more ih =>
    obtain ⟨first, others⟩ := List.forall_mem_cons.mp digits
    by_cases fits : n * 10 + (b.toNat - 0x30) < limit
    · obtain ⟨m, count, left, taken, take⟩ := ih others (n * 10 + (b.toNat - 0x30))
      refine ⟨m, count + 1, left, ⟨taken.digits, fun all => ?_, taken.fits,
        fun _ => taken.below fits⟩, fun rest noDigit line column already => ?_⟩
      · obtain ⟨value, length⟩ := taken.whole all
        exact ⟨value, by rw [length, List.length_cons]⟩
      · obtain ⟨column', read⟩ := take rest noDigit line (column + 1) (already + 1)
        refine ⟨column', ?_⟩
        rw [List.cons_append, takeDigits.go]
        simp only [first, fits, decide_true, Bool.and_self, if_true, read]
        rw [Nat.add_assoc, Nat.add_comm 1]
    · have notAll : b :: more ≠ [] := List.cons_ne_nil b more
      refine ⟨n, 0, b :: more, ⟨digits, fun all => absurd all notAll, fun small => ?_,
        fun _ all => absurd all notAll⟩, fun rest noDigit line column already => ⟨column, ?_⟩⟩
      · exact absurd (Nat.lt_of_le_of_lt (le_value_from _ more) small) fits
      · rw [List.cons_append, takeDigits.go]
        simp [fits]

theorem take_digits {run : Bytes} (digits : AreDigits run) (limit n : Nat) :
    ∃ m count left, Taken limit n run m count left ∧ ∀ (c : Cursor) rest, NoDigit rest →
      c.rest = run ++ rest → ∃ after : Cursor, after.rest = left ++ rest ∧
        takeDigits limit c n = (m, count, after) := by
  obtain ⟨m, count, left, taken, take⟩ := take_digits_go digits limit n
  refine ⟨m, count, left, taken, fun c rest noDigit here => ?_⟩
  obtain ⟨column', read⟩ := take rest noDigit c.line c.column 0
  refine ⟨⟨left ++ rest, c.line, column'⟩, rfl, ?_⟩
  rw [takeDigits, here, read, Nat.zero_add]

/-! ## Reading numerals -/

/-- A floating outcome, or none. -/
private def floats (value : Option Float) : Option Number := value.map Number.floating

private theorem scale_answers (positive : Bool) (significand : Nat) (power : Int) :
    ∃ value, ∀ c : Cursor, Answers (floats value) c.rest (c.scale positive significand power) := by
  simp only [scale]
  split_ifs
  all_goals first
    | exact ⟨none, fun c => ⟨_, rfl⟩⟩
    | exact ⟨some _, fun c => ⟨c, rfl, rfl⟩⟩

/-- The sign of a power of ten decides where its digits start and which way it goes. -/
private theorem power_sign {sign : Bytes} (isSign : sign = [] ∨ sign = [0x2B] ∨ sign = [0x2D]) :
    ∃ up, ∀ (c : Cursor) first more, isDigit first = true → c.next.rest = sign ++ first :: more →
      ∃ behind : Cursor, behind.rest = first :: more ∧ ∀ positive significand start,
        c.exponent positive significand start =
          let (power, _, after) := takeDigits (Nat.pow 2 31) behind 0
          if after.atDigit then
            if significand ≠ 0 && up then after.next.failHere .numberOutOfRange
            else .ok (.floating (if positive then 0.0 else -0.0), after.skipDigits.2)
          else after.scale positive significand (if up then start + power else start - power) := by
  rcases isSign with rfl | rfl | rfl
  · refine ⟨true, fun c first more isDigit here => ⟨c.next, here, fun _ _ _ => ?_⟩⟩
    have noSign : first ≠ 0x2B ∧ first ≠ 0x2D := by
      constructor <;> rintro rfl <;> contradiction
    have head : c.next.rest.head? = some first := by rw [here]; rfl
    unfold exponent
    simp only [head, Option.some.injEq, noSign.1, noSign.2, imp_self, isDigit, Bool.not_true,
      Bool.false_eq_true, if_false]
  · refine ⟨true, fun c first more isDigit here => ⟨c.next.next, next_rest here, fun _ _ _ => ?_⟩⟩
    have behind : c.next.next.rest = first :: more := next_rest here
    unfold exponent
    simp only [here, List.cons_append, List.head?_cons, behind, isDigit, Bool.not_true,
      Bool.false_eq_true, if_false]
  · refine ⟨false, fun c first more isDigit here => ⟨c.next.next, next_rest here, fun _ _ _ => ?_⟩⟩
    have behind : c.next.next.rest = first :: more := next_rest here
    unfold exponent
    simp only [here, List.cons_append, List.head?_cons, behind, isDigit, Bool.not_true,
      Bool.false_eq_true, if_false]

private theorem exponent_answers (letter : UInt8) {sign digits : Bytes}
    (isSign : sign = [] ∨ sign = [0x2B] ∨ sign = [0x2D]) (areDigits : AreDigits digits)
    (nonempty : digits ≠ []) (positive : Bool) (significand : Nat) (start : Int) :
    ∃ value, ∀ (c : Cursor) rest, c.rest = letter :: (sign ++ (digits ++ rest)) → NoDigit rest →
      Answers (floats value) rest (c.exponent positive significand start) := by
  obtain ⟨first, more, rfl⟩ := List.exists_cons_of_ne_nil nonempty
  have isDigit : isDigit first = true := areDigits first List.mem_cons_self
  obtain ⟨up, signed⟩ := power_sign isSign
  obtain ⟨n, count, left, taken, take⟩ := take_digits areDigits (Nat.pow 2 31) 0
  -- the digits that no longer fit 31 bits decide alone, whatever the power would have been
  have opened (c : Cursor) (rest : Bytes) (here : c.rest = letter :: (sign ++ (first :: more ++ rest)))
      (noDigit : NoDigit rest) : ∃ after : Cursor, after.rest = left ++ rest ∧
        c.exponent positive significand start =
          if after.atDigit then
            if significand ≠ 0 && up then after.next.failHere .numberOutOfRange
            else .ok (.floating (if positive then 0.0 else -0.0), after.skipDigits.2)
          else after.scale positive significand (if up then start + n else start - n) := by
    obtain ⟨behind, atDigits, reads⟩ := signed c first (more ++ rest) isDigit (next_rest here)
    obtain ⟨after, atLeft, read⟩ := take behind rest noDigit atDigits
    refine ⟨after, atLeft, ?_⟩
    rw [reads, read]
  by_cases all : left = []
  · obtain ⟨value, scales⟩ := scale_answers positive significand (if up then start + n else start - n)
    refine ⟨value, fun c rest here noDigit => ?_⟩
    obtain ⟨after, atLeft, read⟩ := opened c rest here noDigit
    rw [all, List.nil_append] at atLeft
    rw [read, no_digit_at (atLeft.symm ▸ noDigit), if_neg Bool.false_ne_true]
    exact atLeft ▸ scales after
  · obtain ⟨digit, others, rfl⟩ := List.exists_cons_of_ne_nil all
    by_cases tooLarge : (significand ≠ 0 && up) = true
    · refine ⟨none, fun c rest here noDigit => ?_⟩
      obtain ⟨after, atLeft, read⟩ := opened c rest here noDigit
      rw [read, if_pos (digit_at (taken.digits digit List.mem_cons_self) atLeft), if_pos tooLarge]
      exact ⟨_, rfl⟩
    · refine ⟨some (if positive then 0.0 else -0.0), fun c rest here noDigit => ?_⟩
      obtain ⟨after, atLeft, read⟩ := opened c rest here noDigit
      obtain ⟨behind, ended, skipped⟩ := skip_digits taken.digits noDigit atLeft
      rw [read, if_pos (digit_at (taken.digits digit List.mem_cons_self) atLeft), if_neg tooLarge,
        skipped]
      exact ⟨behind, ended, rfl⟩

/-- Behind the digits of a whole number or of a fraction stands a power of ten, or none. -/
private theorem power_answers {text : Bytes} (power : IsPower text) (positive : Bool)
    (significand : Nat) (start : Int) : ∃ value, ∀ (c : Cursor) rest, c.rest = text ++ rest →
      Ended rest →
      ((c.rest.head? = some 0x65 ∨ c.rest.head? = some 0x45) ∧
        Answers (floats value) rest (c.exponent positive significand start)) ∨
      (c.rest.head? ≠ some 0x2E ∧ c.rest.head? ≠ some 0x65 ∧ c.rest.head? ≠ some 0x45 ∧ text = [] ∧
        Answers (floats value) rest (c.scale positive significand start)) := by
  rcases power with rfl | ⟨letter, sign, digits, rfl, isLetter, isSign, areDigits, nonempty⟩
  · obtain ⟨value, answers⟩ := scale_answers positive significand start
    refine ⟨value, fun c rest here ended => .inr ?_⟩
    obtain ⟨-, notPoint, notSmall, notLarge⟩ := ended_head ended
    have same : c.rest = rest := here
    exact ⟨same ▸ notPoint, same ▸ notSmall, same ▸ notLarge, rfl, same ▸ answers c⟩
  · obtain ⟨value, answers⟩ :=
      exponent_answers letter isSign areDigits nonempty positive significand start
    refine ⟨value, fun c rest here ended => .inl ⟨?_, answers c rest ?_ (ended_head ended).1⟩⟩
    · rw [here]
      rcases isLetter with rfl | rfl
      · exact .inl rfl
      · exact .inr rfl
    · simpa using here

private theorem power_no_digit {text : Bytes} (power : IsPower text) (ended : Ended rest) :
    NoDigit (text ++ rest) := by
  rcases power with rfl | ⟨letter, sign, digits, rfl, isLetter, -⟩
  · exact (ended_head ended).1
  · rcases isLetter with rfl | rfl <;> rfl

private theorem fraction_answers {digits text : Bytes} (areDigits : AreDigits digits)
    (nonempty : digits ≠ []) (power : IsPower text) (positive : Bool) (significand : Nat)
    (start : Int) : ∃ value, ∀ (c : Cursor) rest, c.rest = 0x2E :: (digits ++ (text ++ rest)) →
      Ended rest → Answers (floats value) rest (c.fraction positive significand start) := by
  obtain ⟨n, count, left, taken, take⟩ := take_digits areDigits (Nat.pow 2 64) significand
  obtain ⟨value, answers⟩ := power_answers power positive n (start - count)
  refine ⟨value, fun c rest here ended => ?_⟩
  have noDigit := power_no_digit power ended
  obtain ⟨after, atLeft, read⟩ := take c.next _ noDigit (next_rest here)
  by_cases all : left = []
  · rw [all, List.nil_append] at atLeft
    have counted : count ≠ 0 := by
      rw [(taken.whole all).2]
      exact fun none => nonempty (List.length_eq_zero_iff.mp none)
    unfold fraction
    simp only [read, no_digit_at (atLeft.symm ▸ noDigit), Bool.false_eq_true, if_false, counted]
    rcases answers after rest atLeft ended with ⟨small | large, answer⟩ | ⟨-, notSmall, notLarge, -, answer⟩
    · simpa only [small] using answer
    · simpa only [large] using answer
    · simpa only [notSmall, notLarge, imp_self] using answer
  · obtain ⟨digit, others, rfl⟩ := List.exists_cons_of_ne_nil all
    obtain ⟨behind, atPower, skipped⟩ := skip_digits taken.digits noDigit atLeft
    unfold fraction
    simp only [read, digit_at (taken.digits digit List.mem_cons_self) atLeft, if_true, skipped]
    rcases answers behind rest atPower ended with ⟨small | large, answer⟩ | ⟨-, notSmall, notLarge, -, answer⟩
    · simpa only [small] using answer
    · simpa only [large] using answer
    · simpa only [notSmall, notLarge, imp_self] using answer

/-- A whole number of 64 bits behind its sign. -/
def wholeNumber (positive : Bool) (n : Nat) : Number :=
  if positive then .unsigned n
  else if n = 0 || Nat.pow 2 63 < n then .floating (-n.toUInt64.toFloat)
  else .negative (-(n : Int))

/-- The digits in front of a point or a power of ten. Those that no longer fit 64 bits are dropped. -/
private theorem whole_read {text : Bytes} (whole : IsWhole text) :
    ∃ n dropped : Nat, (dropped = 0 ↔ valueFrom 0 text < 2 ^ 64) ∧
      (dropped = 0 → n = valueFrom 0 text) ∧
      ∀ (c : Cursor) rest, c.rest = text ++ rest → NoDigit rest →
        ∃ after : Cursor, after.rest = rest ∧ ∀ positive,
          (rest.head? = some 0x2E → c.number positive = after.fraction positive n dropped) ∧
          (rest.head? = some 0x65 ∨ rest.head? = some 0x45 →
            c.number positive = after.exponent positive n dropped) ∧
          (rest.head? ≠ some 0x2E → rest.head? ≠ some 0x65 → rest.head? ≠ some 0x45 →
            c.number positive = if dropped ≠ 0 then after.scale positive n dropped
              else .ok (wholeNumber positive n, after)) := by
  obtain ⟨areDigits, first, more, rfl, zeroAlone⟩ := whole
  have isDigit : isDigit first = true := areDigits first List.mem_cons_self
  -- where the reading of the significand ends, and how many digits are left there
  have significand : ∃ n taken left, AreDigits left ∧
      (left = [] ↔ valueFrom 0 (first :: more) < 2 ^ 64) ∧
      (left = [] → n = valueFrom 0 (first :: more)) ∧ ∀ (c : Cursor) rest,
        c.rest = first :: more ++ rest → NoDigit rest → ∃ behind : Cursor,
          behind.rest = left ++ rest ∧ (first = 0x30 && behind.atDigit) = false ∧
            (if first = 0x30 then (0, 1, c.next) else takeDigits (Nat.pow 2 64) c 0) =
              (n, taken, behind) := by
    by_cases zero : first = 0x30
    · obtain rfl := zeroAlone zero
      subst zero
      refine ⟨0, 1, [], by simp [AreDigits], by decide, by decide, fun c rest here noDigit => ?_⟩
      have behind : c.next.rest = rest := next_rest here
      exact ⟨c.next, behind, by simpa using no_digit_at (behind.symm ▸ noDigit), rfl⟩
    · obtain ⟨n, count, left, taken, take⟩ := take_digits areDigits (Nat.pow 2 64) 0
      refine ⟨n, count, left, taken.digits, ⟨taken.below (by decide), taken.fits⟩,
        fun all => (taken.whole all).1, fun c rest here noDigit => ?_⟩
      obtain ⟨behind, atLeft, read⟩ := take c rest noDigit here
      exact ⟨behind, atLeft, by simp [zero], by rw [if_neg zero, read]⟩
  obtain ⟨n, taken, left, leftDigits, fits, value, read⟩ := significand
  refine ⟨n, left.length, by rw [List.length_eq_zero_iff, fits], fun all =>
    value (List.length_eq_zero_iff.mp all), fun c rest here noDigit => ?_⟩
  obtain ⟨behind, atLeft, noZero, significand⟩ := read c rest here noDigit
  obtain ⟨after, ended, skipped⟩ := skip_digits leftDigits noDigit atLeft
  refine ⟨after, ended, fun positive => ⟨fun point => ?_, fun letter => ?_, fun noPoint small large => ?_⟩⟩
  · unfold number
    rw [here]
    simp only [List.cons_append, isDigit, Bool.not_true, Bool.false_eq_true, if_false, significand,
      noZero, skipped, ended, point]
  · unfold number
    rw [here]
    rcases letter with small | large
    · simp only [List.cons_append, isDigit, Bool.not_true, Bool.false_eq_true, if_false, significand,
        noZero, skipped, ended, small]
    · simp only [List.cons_append, isDigit, Bool.not_true, Bool.false_eq_true, if_false, significand,
        noZero, skipped, ended, large]
  · unfold number
    rw [here]
    simp only [List.cons_append, isDigit, Bool.not_true, Bool.false_eq_true, if_false, significand,
      noZero, skipped, ended, wholeNumber]
    split_ifs <;> rfl

/-- A numeral with anything but digits in it has no natural number. -/
theorem no_natural {text : Bytes} {b : UInt8} {n : Nat} (member : b ∈ text) (other : isDigit b = false) :
    natural? text ≠ some n := by
  unfold natural?
  rw [if_neg]
  · simp
  · rw [List.all_eq_true]
    intro all
    exact Bool.false_ne_true (other.symm.trans (all b member))

/-- What a numeral is read as does not depend on where it stands. Digits alone that fit 64 bits are
their number; whatever else has a value has a floating one. -/
theorem number_answers {text : Bytes} (numeral : IsNumeral text) (positive : Bool) :
    ∃ value, (∀ (c : Cursor) rest, c.rest = text ++ rest → Ended rest →
        Answers value rest (c.number positive)) ∧
      ((∃ n, natural? text = some n ∧ n < 2 ^ 64 ∧ value = some (wholeNumber positive n)) ∨
        (∀ n, natural? text = some n → 2 ^ 64 ≤ n) ∧ ∃ x, value = floats x) := by
  obtain ⟨whole, fraction, power, rfl, isWhole, isFraction, isPower⟩ := numeral
  obtain ⟨n, dropped, fits, value, reads⟩ := whole_read isWhole
  rcases isFraction with rfl | ⟨digits, rfl, areDigits, nonempty⟩
  · obtain ⟨x, answers⟩ := power_answers isPower positive n dropped
    by_cases alone : power = []
    · subst alone
      have natural : natural? (whole ++ ([] ++ [])) = some (valueFrom 0 whole) := by
        rw [List.append_nil, List.append_nil, natural?, if_pos (List.all_eq_true.mpr isWhole.1)]
      by_cases small : valueFrom 0 whole < 2 ^ 64
      · refine ⟨some (wholeNumber positive n), fun c rest here ended => ?_,
          .inl ⟨valueFrom 0 whole, natural, small, by rw [value (fits.mpr small)]⟩⟩
        obtain ⟨noDigit, notPoint, notSmall, notLarge⟩ := ended_head ended
        obtain ⟨after, left, read⟩ := reads c rest (by simpa using here) noDigit
        rw [(read positive).2.2 notPoint notSmall notLarge, fits.mpr small]
        exact ⟨after, left, rfl⟩
      · refine ⟨floats x, fun c rest here ended => ?_, .inr ⟨fun m same => ?_, x, rfl⟩⟩
        · obtain ⟨noDigit, notPoint, notSmall, notLarge⟩ := ended_head ended
          obtain ⟨after, left, read⟩ := reads c rest (by simpa using here) noDigit
          have lost : dropped ≠ 0 := fun none => small (fits.mp none)
          rw [(read positive).2.2 notPoint notSmall notLarge, if_pos lost]
          rcases answers after rest left ended with ⟨letter, -⟩ | ⟨-, -, -, -, answer⟩
          · rw [left] at letter
            exact absurd letter (not_or.mpr ⟨notSmall, notLarge⟩)
          · exact answer
        · obtain rfl := Option.some.inj (natural.symm.trans same)
          exact Nat.not_lt.mp small
    · refine ⟨floats x, fun c rest here ended => ?_, .inr ⟨fun m same => ?_, x, rfl⟩⟩
      · have noDigit := power_no_digit isPower ended
        obtain ⟨after, left, read⟩ := reads c (power ++ rest) (by simpa using here) noDigit
        rcases answers after rest left ended with ⟨letter, answer⟩ | ⟨-, -, -, none, -⟩
        · rw [(read positive).2.1 (left ▸ letter)]
          exact answer
        · exact absurd none alone
      · rcases isPower with none | ⟨letter, sign, digits, rfl, isLetter, -⟩
        · exact absurd none alone
        · refine absurd same (no_natural (b := letter) (by simp) ?_)
          rcases isLetter with rfl | rfl <;> decide
  · obtain ⟨x, answers⟩ := fraction_answers areDigits nonempty isPower positive n dropped
    refine ⟨floats x, fun c rest here ended => ?_, .inr ⟨fun m natural => ?_, x, rfl⟩⟩
    · have apart : c.rest = whole ++ (0x2E :: (digits ++ (power ++ rest))) := by simpa using here
      obtain ⟨after, left, read⟩ := reads c _ apart rfl
      rw [(read positive).1 rfl]
      exact answers after rest left ended
    · exact absurd natural (no_natural (b := 0x2E) (by simp) (by decide))

/-- A number with its sign. -/
theorem signed_number_answers {text : Bytes} (number : IsNumber text) :
    ∃ value, (∀ (c : Cursor) rest, c.rest = text ++ rest → Ended rest →
        Answers value rest c.signedNumber) ∧
      ((∃ n, natural? text = some n ∧ n < 2 ^ 64 ∧ value = some (.unsigned n)) ∨
        (∀ n, natural? text = some n → 2 ^ 64 ≤ n) ∧ (∀ n, value ≠ some (.unsigned n)) ∧
          ∀ n, value = some (.negative n) → n < 0) := by
  have never (x : Option Float) : (∀ n, floats x ≠ some (.unsigned n)) ∧
      ∀ n, floats x = some (.negative n) → n < 0 := by
    cases x <;> simp [floats]
  rcases number with numeral | ⟨numeral, rfl, isNumeral⟩
  · obtain ⟨value, answers, whole⟩ := number_answers numeral true
    refine ⟨value, fun c rest here ended => ?_, ?_⟩
    · have unsigned : c.signedNumber = c.number true := by
        obtain ⟨digits, fraction, power, rfl, ⟨areDigits, first, more, rfl, -⟩, -⟩ := numeral
        have notMinus : first ≠ 0x2D := by
          rintro rfl
          exact absurd (areDigits _ List.mem_cons_self) (by decide)
        unfold signedNumber
        rw [here]
        simp [notMinus]
      rw [unsigned]
      exact answers c rest here ended
    · rcases whole with ⟨n, natural, small, same⟩ | ⟨large, x, rfl⟩
      · exact .inl ⟨n, natural, small, same⟩
      · exact .inr ⟨large, never x⟩
  · obtain ⟨value, answers, whole⟩ := number_answers isNumeral false
    refine ⟨value, fun c rest here ended => ?_, .inr ⟨fun n same => ?_, ?_⟩⟩
    · unfold signedNumber
      rw [here]
      exact answers c.next rest (next_rest here) ended
    · exact absurd same (no_natural List.mem_cons_self (by decide))
    · rcases whole with ⟨n, -, -, rfl⟩ | ⟨-, x, rfl⟩
      · simp only [wholeNumber, Bool.false_eq_true, if_false]
        split_ifs with floating
        · simp
        · simp at floating ⊢
          omega
      · exact never x

/-! ## Passing over numerals -/

private theorem skip_whole_passes {text : Bytes} (whole : IsWhole text) (noDigit : NoDigit rest)
    (here : c.rest = text ++ rest) :
    ∃ after : Cursor, after.rest = rest ∧ c.skipWhole = .ok after := by
  obtain ⟨areDigits, first, more, rfl, zeroAlone⟩ := whole
  have head : c.rest.head? = some first := by rw [here]; rfl
  unfold skipWhole
  by_cases zero : first = 0x30
  · obtain rfl := zeroAlone zero
    have behind : c.next.rest = rest := next_rest here
    refine ⟨c.next, behind, ?_⟩
    simp only [head, zero, no_digit_at (behind.symm ▸ noDigit), Bool.false_eq_true, if_false]
  · obtain ⟨after, left, skipped⟩ := skip_digits areDigits noDigit here
    refine ⟨after, left, ?_⟩
    have isDigit : isDigit first = true := areDigits first List.mem_cons_self
    simp only [head, isDigit, if_true, skipped]

private theorem skip_fraction_passes {text : Bytes} (fraction : IsFraction text)
    (noDigit : NoDigit rest) (noPoint : rest.head? ≠ some 0x2E) (here : c.rest = text ++ rest) :
    ∃ after : Cursor, after.rest = rest ∧ c.skipFraction = .ok after := by
  unfold skipFraction
  rcases fraction with rfl | ⟨digits, rfl, areDigits, nonempty⟩
  · have same : c.rest = rest := here
    refine ⟨c, same, ?_⟩
    simp only [same]
  · obtain ⟨after, left, skipped⟩ := skip_digits areDigits noDigit (next_rest here)
    refine ⟨after, left, ?_⟩
    have head : c.rest.head? = some 0x2E := by rw [here]; rfl
    have counted : digits.length ≠ 0 := fun none => nonempty (List.length_eq_zero_iff.mp none)
    simp only [head, skipped, counted, if_false]

/-- Where the digits of a power of ten begin: behind its letter, and behind the sign if there is one. -/
def powerDigits (c : Cursor) : Cursor :=
  match c.next.rest.head? with
  | some 0x2B | some 0x2D => c.next.next
  | _ => c.next

/-- The letter and the sign of a power of ten are passed over to get at its digits. -/
private theorem skip_power_digits {letter first : UInt8} {sign more : Bytes}
    (isLetter : letter = 0x65 ∨ letter = 0x45) (isSign : sign = [] ∨ sign = [0x2B] ∨ sign = [0x2D])
    (isDigit : isDigit first = true) (here : c.rest = letter :: (sign ++ first :: more)) :
    ∃ start : Cursor, start.rest = first :: more ∧ c.skipPower = .ok start.skipDigits.2 := by
  have behind := next_rest here
  have head : c.rest.head? = some 0x65 ∨ c.rest.head? = some 0x45 := by
    rw [here]
    simpa using isLetter
  have reach (start : Cursor) (begins : c.powerDigits = start) (digits : start.rest = first :: more) :
      c.skipPower = .ok start.skipDigits.2 := by
    unfold skipPower
    subst begins
    rcases head with small | large
    · simp only [small]
      exact if_pos (digit_at isDigit digits)
    · simp only [large]
      exact if_pos (digit_at isDigit digits)
  rcases isSign with rfl | rfl | rfl
  · have noSign : first ≠ 0x2B ∧ first ≠ 0x2D := by
      constructor <;> rintro rfl <;> contradiction
    have head : c.next.rest.head? = some first := by rw [behind]; rfl
    refine ⟨c.next, behind, reach c.next ?_ behind⟩
    simp only [powerDigits, head, Option.some.injEq, noSign.1, noSign.2, imp_self]
  · exact ⟨c.next.next, next_rest behind, reach _ (by rw [powerDigits, behind]; rfl) (next_rest behind)⟩
  · exact ⟨c.next.next, next_rest behind, reach _ (by rw [powerDigits, behind]; rfl) (next_rest behind)⟩

private theorem skip_power_passes {text : Bytes} (power : IsPower text) (ended : Ended rest)
    (here : c.rest = text ++ rest) :
    ∃ after : Cursor, after.rest = rest ∧ c.skipPower = .ok after := by
  obtain ⟨noDigit, -, notSmall, notLarge⟩ := ended_head ended
  rcases power with rfl | ⟨letter, sign, digits, rfl, isLetter, isSign, areDigits, nonempty⟩
  · have same : c.rest = rest := here
    refine ⟨c, same, ?_⟩
    unfold skipPower
    simp only [same]
  · obtain ⟨first, more, rfl⟩ := List.exists_cons_of_ne_nil nonempty
    rw [List.cons_append, List.append_assoc, List.cons_append] at here
    obtain ⟨start, atDigits, read⟩ :=
      skip_power_digits isLetter isSign (areDigits first List.mem_cons_self) here
    obtain ⟨after, left, skipped⟩ := skip_digits areDigits noDigit atDigits
    exact ⟨after, left, by rw [read, skipped]⟩

/-- Every numeral can be passed over. -/
theorem skip_number_passes {text : Bytes} (numeral : IsNumeral text) (ended : Ended rest)
    (here : c.rest = text ++ rest) :
    ∃ after : Cursor, after.rest = rest ∧ c.skipNumber = .ok after := by
  obtain ⟨whole, fraction, power, rfl, isWhole, isFraction, isPower⟩ := numeral
  rw [List.append_assoc, List.append_assoc] at here
  have noDigit := power_no_digit isPower ended
  have noPoint : (power ++ rest).head? ≠ some 0x2E := by
    rcases isPower with rfl | ⟨letter, sign, digits, rfl, rfl | rfl, -⟩
    · exact (ended_head ended).2.1
    · simp
    · simp
  have wholeEnds : NoDigit (fraction ++ (power ++ rest)) := by
    rcases isFraction with rfl | ⟨digits, rfl, -⟩
    · exact noDigit
    · rfl
  obtain ⟨first, atFraction, whole⟩ := skip_whole_passes isWhole wholeEnds here
  obtain ⟨second, atPower, fraction⟩ := skip_fraction_passes isFraction noDigit noPoint atFraction
  obtain ⟨after, left, power⟩ := skip_power_passes isPower ended atPower
  refine ⟨after, left, ?_⟩
  simp only [skipNumber, whole, fraction, power, bind, Except.bind]

/-! ## Written numbers -/

private theorem digits_are_digits (n : Nat) : AreDigits (digits n) := by
  induction n using Nat.strongRecOn with
  | ind n ih =>
    by_cases short : n < 10
    · rw [digits_short short, AreDigits, List.forall_mem_singleton]
      exact (digit_is_digit n short).1
    · rw [digits_long (Nat.not_lt.mp short), AreDigits, List.forall_mem_append,
        List.forall_mem_singleton]
      exact ⟨ih (n / 10) (by omega), (digit_is_digit (n % 10) (Nat.mod_lt n (by decide))).1⟩

theorem digits_numeral (n : Nat) : IsNumeral (digits n) ∧ natural? (digits n) = some n := by
  have areDigits := digits_are_digits n
  refine ⟨⟨digits n, [], [], by simp, ⟨areDigits, ?_⟩, .inl rfl, .inl rfl⟩, ?_⟩
  · obtain ⟨k, single, more, shape, onlyZero⟩ := digits_head n
    exact ⟨digit k, more, shape, fun zero =>
      (onlyZero ((digit_is_digit k single).2.2.mp zero)).2⟩
  · rw [natural?, if_pos (List.all_eq_true.mpr areDigits), value_of_digits]

/-- The digits of a number, behind its sign, are read as that number. -/
private theorem digits_read {n : Nat} (small : n < 2 ^ 64) (positive : Bool) (ended : Ended rest)
    (here : c.rest = digits n ++ rest) :
    ∃ after : Cursor, after.rest = rest ∧ c.number positive = .ok (wholeNumber positive n, after) := by
  obtain ⟨numeral, natural⟩ := digits_numeral n
  obtain ⟨value, answers, ⟨m, same, -, rfl⟩ | ⟨large, -⟩⟩ := number_answers numeral positive
  · obtain rfl := Option.some.inj (natural.symm.trans same)
    exact answers c rest here ended
  · exact absurd small (Nat.not_lt.mpr (large n natural))

/-- A written whole number is read with its sign. -/
theorem signed_number_reads {n : Int} (low : -2 ^ 63 ≤ n) (high : n < 2 ^ 63) (ended : Ended rest)
    (here : c.rest = encode (Numeral.signed n) ++ rest) :
    ∃ after : Cursor, after.rest = rest ∧
      c.signedNumber = .ok (if n < 0 then .negative n else .unsigned n.natAbs, after) := by
  rw [signed_bytes] at here
  unfold signedNumber
  by_cases negative : n < 0
  · rw [if_pos negative, List.cons_append] at here
    obtain ⟨after, left, read⟩ := digits_read (by omega) false ended (next_rest here)
    refine ⟨after, left, ?_⟩
    have same : -(n.natAbs : Int) = n := by omega
    have fits : (n.natAbs = 0 || Nat.pow 2 63 < n.natAbs) = false := by
      have : n.natAbs ≤ Nat.pow 2 63 := by
        show n.natAbs ≤ 2 ^ 63
        omega
      simp [Nat.not_lt.mpr this]
      omega
    rw [here, if_pos negative, List.head?_cons]
    simpa only [wholeNumber, Bool.false_eq_true, if_false, fits, same] using read
  · rw [if_neg negative] at here
    obtain ⟨after, left, read⟩ := digits_read (by omega) true ended here
    refine ⟨after, left, ?_⟩
    obtain ⟨k, single, more, shape, -⟩ := digits_head n.natAbs
    have notMinus : ∀ k < 10, digit k ≠ 0x2D := by decide
    have head : c.rest.head? = some (digit k) := by rw [here, shape]; rfl
    simpa only [if_neg negative, head, Option.some.injEq, notMinus k single, imp_self, wholeNumber,
      if_true] using read

end Cursor
end Gatehouse.Json
