import Gatehouse.Text.Numeral

/-!
The shortest decimal that reads back as a binary number. A double is taken apart into `m * 2 ^ q`;
the reals that round to it form an interval, and the first decimal grid with a point in the interval
gives the digits. Two layouts of the digits follow: always positional, and positional only for
moderate sizes.
-/
namespace Gatehouse.Shortest

/-- A binary number `mantissa * 2 ^ exponent` of at most 53 significant bits. `lowest` marks a
mantissa that is the first of its exponent, whose lower neighbour is half as far away as the upper
one. -/
structure Binary where
  mantissa : Nat
  exponent : Int
  lowest : Bool

/-- A decimal `digits * 10 ^ exponent`. -/
structure Decimal where
  digits : Nat
  exponent : Int

/-- The nearest number of at most 53 significant bits, a tie going to the even neighbour. -/
def roundNat (n : Nat) : Nat :=
  if n < Nat.pow 2 53 then n
  else
    let shift : Nat := Nat.log2 n - 52
    let unit := Nat.pow 2 shift
    let quotient := n / unit
    let twice := 2 * (n % unit)
    if twice < unit then quotient * unit
    else if unit < twice then (quotient + 1) * unit
    else (quotient + quotient % 2) * unit

/-- A natural number of at most 53 significant bits with its neighbours' distances. -/
def Binary.ofNat (n : Nat) : Binary :=
  if n < Nat.pow 2 53 then
    let up := 52 - Nat.log2 n
    ⟨n * Nat.pow 2 up, -(up : Int), n * Nat.pow 2 up == Nat.pow 2 52⟩
  else
    let shift : Nat := Nat.log2 n - 52
    ⟨n / Nat.pow 2 shift, (shift : Int), n / Nat.pow 2 shift == Nat.pow 2 52⟩

/-- The magnitude of a finite double. -/
def Binary.ofFloat (x : Float) : Binary :=
  let bits := x.toBits.toNat % Nat.pow 2 63
  let raw : Nat := bits / Nat.pow 2 52
  let fraction := bits % Nat.pow 2 52
  if raw = 0 then ⟨fraction, -1074, false⟩
  else ⟨fraction + Nat.pow 2 52, (raw : Int) - 1075, fraction == 0 && 1 < raw⟩

/-- `10 ^ k` as a fraction. -/
def powerOfTen (k : Int) : Nat × Nat :=
  if 0 ≤ k then (Nat.pow 10 k.toNat, 1) else (1, Nat.pow 10 k.natAbs)

/-- The least `k`, counted up from `start`, with `num / den < 10 ^ k`. -/
def magnitude (num den : Nat) : Nat → Int → Int
  | 0, k => k
  | steps + 1, k =>
    let (p, q) := powerOfTen k
    if num * q < p * den then k else magnitude num den steps (k + 1)

/-- The digit string on the first grid that has a point in the interval of `b`, of two points the
nearer one. -/
def search (num den low high : Nat) (closed : Bool) (k : Int) : Nat → Nat → Decimal
  | 0, _ => ⟨0, 0⟩
  | steps + 1, count =>
    let e := k - count
    let (p, q) := powerOfTen e
    -- the grid is p / q; the value in grid units is num * q / (den * p)
    let below := num * q / (den * p)
    let above := below + 1
    let inside (point : Nat) : Bool :=
      let scaled := point * p * den
      if closed then low * q ≤ scaled && scaled ≤ high * q
      else low * q < scaled && scaled < high * q
    let gapBelow := num * q - below * p * den
    let gapAbove := above * p * den - num * q
    match inside below, inside above with
    | true, true =>
      if gapBelow < gapAbove || (gapBelow == gapAbove && below % 2 == 0) then ⟨below, e⟩
      else ⟨above, e⟩
    | true, false => ⟨below, e⟩
    | false, true => ⟨above, e⟩
    | false, false => search num den low high closed k steps (count + 1)

/-- Trailing zeros move into the exponent. -/
def Decimal.trim (d : Decimal) : Nat → Decimal
  | 0 => d
  | steps + 1 =>
    if d.digits ≠ 0 ∧ d.digits % 10 = 0 then
      Decimal.trim ⟨d.digits / 10, d.exponent + 1⟩ steps
    else d

/-- The shortest decimal in the rounding interval of a binary number. -/
def decimal (b : Binary) : Decimal :=
  if b.mantissa = 0 then ⟨0, 0⟩
  else
    let scale := if 0 ≤ b.exponent then Nat.pow 2 b.exponent.toNat else 1
    let den := if 0 ≤ b.exponent then 4 else 4 * Nat.pow 2 b.exponent.natAbs
    let num := 4 * b.mantissa * scale
    let low := num - (if b.lowest then 1 else 2) * scale
    let high := num + 2 * scale
    let k := magnitude num den 700 (-330)
    (search num den low high (b.mantissa % 2 == 0) k 20 1).trim 20

/-- The decimal digits of a natural number, most significant first. -/
def digitChars (n : Nat) : List Char :=
  (Numeral.decimal n).toList

/-- Positional text with `point` integer digits; `whole` is what follows a number without a
fraction. -/
def positional (digits : List Char) (exponent : Int) (whole : String) : String :=
  let point := (digits.length : Int) + exponent
  if 0 ≤ exponent then
    String.ofList (digits ++ List.replicate exponent.toNat '0') ++ whole
  else if 0 < point then
    String.ofList (digits.take point.toNat ++ '.' :: digits.drop point.toNat)
  else
    String.ofList ('0' :: '.' :: List.replicate point.natAbs '0' ++ digits)

/-- Positional text, without a fraction where there is none. -/
def plain (b : Binary) : String :=
  let d := decimal b
  positional (digitChars d.digits) d.exponent ""

/-- Text that is positional from `1e-5` up to sixteen integer digits, there always with a fraction,
and scientific outside. -/
def scientific (negative : Bool) (b : Binary) : String :=
  let d := decimal b
  let digits := digitChars d.digits
  let point := (digits.length : Int) + d.exponent
  let magnitude :=
    if -5 < point && point ≤ 16 then positional digits d.exponent ".0"
    else
      let power := point - 1
      let sign := if power < 0 then "-" else "+"
      let fraction := match digits.drop 1 with
        | [] => ""
        | more => "." ++ String.ofList more
      String.ofList (digits.take 1) ++ fraction ++ "e" ++ sign ++ Numeral.decimal power.natAbs
  (if negative then "-" else "") ++ magnitude

/-- The text of a finite double in diagnostics. -/
def ofFloat (x : Float) : String :=
  scientific (x.toBits.toNat / Nat.pow 2 63 == 1) (Binary.ofFloat x)

/-- The text of a natural number held as a double. -/
def ofNat (n : Nat) : String :=
  plain (Binary.ofNat (roundNat n))

end Gatehouse.Shortest
