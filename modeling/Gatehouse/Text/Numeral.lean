/-!
Numerals: writing natural numbers in a base and reading decimal ones back.
-/
namespace Gatehouse.Numeral

/-- The digits of `n` in `base`, most significant first, in front of `tail`. The first argument
bounds the number of digits. -/
def digitsOnto (base : Nat) : Nat → Nat → List Char → List Char
  | 0, _, tail => tail
  | bound + 1, n, tail =>
    let tail := Nat.digitChar (n % base) :: tail
    if n / base = 0 then tail else digitsOnto base bound (n / base) tail

/-- Lower-case hexadecimal without leading zeros. -/
def hex (n : Nat) : String :=
  String.ofList (digitsOnto 16 (n + 1) n [])

/-- Lower-case hexadecimal of exactly `width` digits, the most significant ones dropped. -/
def hexPadded (width n : Nat) : List Char :=
  (List.range width).reverse.map fun place => Nat.digitChar (n / Nat.pow 16 place % 16)

/-- Decimal text without leading zeros. -/
def decimal (n : Nat) : String :=
  toString n

/-- Decimal text of exactly `width` digits. -/
def decimalPadded (width n : Nat) : String :=
  String.ofList ((List.range width).reverse.map fun place => Nat.digitChar (n / Nat.pow 10 place % 10))

/-- Decimal text of an integer, with a minus sign below zero. -/
def signed (n : Int) : String :=
  if n < 0 then "-" ++ decimal n.natAbs else decimal n.natAbs

/-- The value of an ASCII digit. -/
def digitValue? (c : Char) : Option Nat :=
  if '0' ≤ c && c ≤ '9' then some (c.toNat - '0'.toNat) else none

/-- The value of an ASCII hexadecimal digit. -/
def hexValue? (c : Char) : Option Nat :=
  if '0' ≤ c && c ≤ '9' then some (c.toNat - '0'.toNat)
  else if 'a' ≤ c && c ≤ 'f' then some (c.toNat - 'a'.toNat + 10)
  else if 'A' ≤ c && c ≤ 'F' then some (c.toNat - 'A'.toNat + 10)
  else none

/-- Reads a nonempty run of decimal digits and nothing else. -/
def natOfDigits? : List Char → Option Nat
  | [] => none
  | digits => digits.foldlM (fun acc c => (digitValue? c).map (acc * 10 + ·)) 0

/-- Reads an optional plus sign and decimal digits, at most `limit`. -/
def unsigned? (limit : Nat) (text : List Char) : Option Nat :=
  let digits := match text with
    | '+' :: rest => rest
    | _ => text
  (natOfDigits? digits).filter (· ≤ limit)

/-- Reads an optional sign and decimal digits that fit a signed 64-bit word. -/
def int64? (text : List Char) : Option Int :=
  match text with
  | '-' :: rest =>
    (natOfDigits? rest).bind fun n => if n ≤ 9223372036854775808 then some (-(n : Int)) else none
  | _ => (unsigned? 9223372036854775807 text).map (fun n => (n : Int))

end Gatehouse.Numeral
