import Gatehouse.Text.Numeral
import Gatehouse.Text.Utf8

/-!
Percent codes: a percent sign and two hexadecimal digits stand for one byte. Pairs of a query use
them too, with a plus sign for a space.
-/
namespace Gatehouse.Percent

/-- The value of a byte that is an ASCII hexadecimal digit. -/
def digit? (b : UInt8) : Option Nat := Numeral.hexValue? (Char.ofNat b.toNat)

/-- The bytes that are meant. A percent sign without two digits behind it stands for itself. -/
def decode : Bytes → Bytes
  | 0x25 :: high :: low :: rest =>
    match digit? high, digit? low with
    | some h, some l => (h * 16 + l).toUInt8 :: decode rest
    | _, _ => 0x25 :: decode (high :: low :: rest)
  | b :: rest => b :: decode rest
  | [] => []

/-- The bytes that a text means. -/
def bytesOf (text : String) : Bytes := decode (Utf8.encode text)

/-- The text of one half of a pair. -/
def formText (text : List Char) : String :=
  let spaced := text.map fun c => if c = '+' then ' ' else c
  Utf8.decodeLossy (bytesOf (String.ofList spaced))

/-- The pairs of a query in order; a part without an equals sign is a name alone. -/
def pairs (query : String) : List (String × String) :=
  ((query.splitOn "&").filter (· ≠ "")).map fun part =>
    (formText (part.toList.takeWhile (· ≠ '=')),
      formText ((part.toList.dropWhile (· ≠ '=')).drop 1))

end Gatehouse.Percent
