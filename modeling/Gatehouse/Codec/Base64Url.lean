import Gatehouse.Text.Utf8
import Gatehouse.Text.Numeral

/-!
Base 64 with the alphabet for addresses and without padding. Reading accepts exactly what writing
produces: spare bits in the last symbol must be zero.
-/
namespace Gatehouse.Base64Url

/-- The symbol of a value below 64. -/
def symbol (n : Nat) : UInt8 :=
  if n < 26 then (0x41 + n).toUInt8
  else if n < 52 then (0x61 + (n - 26)).toUInt8
  else if n < 62 then (0x30 + (n - 52)).toUInt8
  else if n = 62 then 0x2D
  else 0x5F

/-- The value of a symbol. -/
def value? (b : UInt8) : Option Nat :=
  if 0x41 ≤ b && b ≤ 0x5A then some (b.toNat - 0x41)
  else if 0x61 ≤ b && b ≤ 0x7A then some (b.toNat - 0x61 + 26)
  else if 0x30 ≤ b && b ≤ 0x39 then some (b.toNat - 0x30 + 52)
  else if b = 0x2D then some 62
  else if b = 0x5F then some 63
  else none

/-- Three bytes become four symbols; one or two at the end become two or three. -/
def encode : Bytes → Bytes
  | a :: b :: c :: rest =>
    let n := a.toNat * 65536 + b.toNat * 256 + c.toNat
    symbol (n / 262144) :: symbol (n / 4096 % 64) :: symbol (n / 64 % 64) :: symbol (n % 64) ::
      encode rest
  | [a, b] =>
    let n := a.toNat * 256 + b.toNat
    [symbol (n / 1024), symbol (n / 16 % 64), symbol (n % 16 * 4)]
  | [a] => [symbol (a.toNat / 4), symbol (a.toNat % 4 * 16)]
  | [] => []

/-- Why a text is not base 64. Offsets count from zero. -/
inductive Defect where
  | symbol (offset : Nat) (byte : UInt8)
  | length (count : Nat)
  | lastSymbol (offset : Nat) (byte : UInt8)
  | padding
  deriving DecidableEq, Repr

def Defect.message : Defect → String
  | symbol offset byte =>
    "Invalid symbol " ++ Numeral.decimal byte.toNat ++ ", offset " ++ Numeral.decimal offset ++ "."
  | length count => "Invalid input length: " ++ Numeral.decimal count
  | lastSymbol offset byte =>
    "Invalid last symbol " ++ Numeral.decimal byte.toNat ++ ", offset " ++
      Numeral.decimal offset ++ "."
  | padding => "Invalid padding"

/-- The padding character, which has no place here. -/
def pad : UInt8 := 0x3D

/-- The values of symbols from an offset on. -/
def values : Nat → Bytes → Except Defect (List Nat)
  | _, [] => .ok []
  | offset, b :: rest =>
    match value? b with
    | some n => (values (offset + 1) rest).map (n :: ·)
    | none => .error (.symbol offset b)

/-- The values of the last group of at most four. Padding behind two or more symbols is named as
such, unless a symbol follows it. -/
def lastValues (offset : Nat) (group : Bytes) : Except Defect (List Nat) :=
  let front := group.takeWhile (· ≠ pad)
  let behind := group.dropWhile (· ≠ pad)
  match values offset front with
  | .error defect => .error defect
  | .ok ns =>
    if behind.isEmpty then .ok ns
    else if front.length < 2 then .error (.symbol (offset + front.length) pad)
    else if behind.any (· ≠ pad) then .error (.symbol (offset + front.length) pad)
    else .error .padding

/-- Bytes of a number, the most significant first. -/
def bytesOf (count n : Nat) : Bytes :=
  (List.range count).reverse.map fun i => (n / Nat.pow 256 i % 256).toUInt8

/-- The bytes of the last group. -/
def decodeLast (offset : Nat) (group : Bytes) : Except Defect Bytes := do
  match ← lastValues offset group with
  | [] => return []
  | [_] => .error (.length (offset + 1))
  | [a, b] =>
    if b % 16 = 0 then return bytesOf 1 (a * 4 + b / 16)
    else .error (.lastSymbol (offset + 1) (symbol b))
  | [a, b, c] =>
    if c % 4 = 0 then return bytesOf 2 (a * 1024 + b * 16 + c / 4)
    else .error (.lastSymbol (offset + 2) (symbol c))
  | a :: b :: c :: d :: _ => return bytesOf 3 (a * 262144 + b * 4096 + c * 64 + d)

/-- Groups of four from an offset on. -/
def decodeFrom : Nat → Bytes → Except Defect Bytes
  | offset, a :: b :: c :: d :: e :: rest => do
    let ns ← values offset [a, b, c, d]
    let n := ns.foldl (fun acc n => acc * 64 + n) 0
    return bytesOf 3 n ++ (← decodeFrom (offset + 4) (e :: rest))
  | offset, group => decodeLast offset group

/-- Reads a text. A single byte too many that is no symbol is named before anything else. -/
def decode (text : Bytes) : Except Defect Bytes :=
  match text.getLast? with
  | none => .ok []
  | some last =>
    if text.length % 4 = 1 && last ≠ pad && (value? last).isNone then
      .error (.symbol (text.length - 1) last)
    else decodeFrom 0 text

end Gatehouse.Base64Url
