import Gatehouse.Text.Numeral
import Gatehouse.Text.Utf8

/-!
Random identifiers: sixteen bytes, of which six bits tell the version and the variant, in
hexadecimal groups.
-/
namespace Gatehouse.Uuid

/-- Marks the version in the seventh byte and the variant in the ninth. -/
def marked (random : Bytes) : Bytes :=
  random.zipIdx.map fun (b, i) =>
    if i = 6 then (b &&& 0x0F) ||| 0x40 else if i = 8 then (b &&& 0x3F) ||| 0x80 else b

/-- The identifier of sixteen random bytes. -/
def ofRandom (random : Bytes) : String :=
  let digits := (marked random).flatMap fun b => Numeral.hexPadded 2 b.toNat
  let group (start length : Nat) : String := String.ofList ((digits.drop start).take length)
  "-".intercalate [group 0 8, group 8 4, group 12 4, group 16 4, group 20 12]

end Gatehouse.Uuid
