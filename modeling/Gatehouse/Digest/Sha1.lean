import Gatehouse.Digest.Sha256
import Gatehouse.Text.Numeral

/-!
SHA-1, by which a stored script is called.
-/
namespace Gatehouse.Sha1

/-- The five working words. -/
structure State where
  a : UInt32
  b : UInt32
  c : UInt32
  d : UInt32
  e : UInt32

/-- The words before the first block. -/
def initial : State := ⟨0x67452301, 0xefcdab89, 0x98badcfe, 0x10325476, 0xc3d2e1f0⟩

/-- Rotation to the left by fewer than 32 places. -/
def rotate (x : UInt32) (n : UInt32) : UInt32 := (x <<< n) ||| (x >>> (32 - n))

/-- Extends the schedule by `count` words. The newest word stands first. -/
def schedule : Nat → List UInt32 → List UInt32
  | 0, recent => recent.reverse
  | count + 1, recent =>
    let back (i : Nat) : UInt32 := recent.getD (i - 1) 0
    schedule count (rotate (back 3 ^^^ back 8 ^^^ back 14 ^^^ back 16) 1 :: recent)

/-- One round: the function and the constant change every twenty rounds. -/
def round (s : State) (iw : Nat × UInt32) : State :=
  let (f, k) : UInt32 × UInt32 :=
    if iw.1 < 20 then ((s.b &&& s.c) ||| ((~~~s.b) &&& s.d), 0x5a827999)
    else if iw.1 < 40 then (s.b ^^^ s.c ^^^ s.d, 0x6ed9eba1)
    else if iw.1 < 60 then ((s.b &&& s.c) ||| (s.b &&& s.d) ||| (s.c &&& s.d), 0x8f1bbcdc)
    else (s.b ^^^ s.c ^^^ s.d, 0xca62c1d6)
  ⟨rotate s.a 5 + f + s.e + k + iw.2, s.a, rotate s.b 30, s.c, s.d⟩

/-- Takes in one block of sixteen words. -/
def compress (s : State) (block : List UInt32) : State :=
  let t := ((List.range 80).zip (schedule 64 block.reverse)).foldl round s
  ⟨s.a + t.a, s.b + t.b, s.c + t.c, s.d + t.d, s.e + t.e⟩

/-- Takes in a number of blocks. -/
def absorb : Nat → State → List UInt32 → State
  | 0, s, _ => s
  | blocks + 1, s, ws => absorb blocks (compress s (ws.take 16)) (ws.drop 16)

/-- The digest of a message in hexadecimal. -/
def hex (message : Bytes) : String :=
  let ws := Sha256.words (Sha256.padded message)
  let s := absorb (ws.length / 16) initial ws
  String.ofList ([s.a, s.b, s.c, s.d, s.e].flatMap fun w => Numeral.hexPadded 8 w.toNat)

end Gatehouse.Sha1
