/-!
Bytes and text. A body, a header value or a file is a list of bytes; text is what its UTF-8 reading
gives. `scan` splits any byte list into characters and ill-formed runs, the strict and the lossy
readings are two views of it.
-/
namespace Gatehouse

/-- Octets as they travel: header values, bodies, file contents. -/
abbrev Bytes := List UInt8

namespace Utf8

/-- The bytes of a text. -/
def encode (text : String) : Bytes :=
  text.toUTF8.toList

/-- A byte that may only stand inside a multi-byte sequence. -/
def isContinuation (b : UInt8) : Bool :=
  0x80 ≤ b && b ≤ 0xBF

/-- The payload bits of a continuation byte. -/
def low6 (b : UInt8) : Nat :=
  b.toNat % 64

/-- Whether `second` may follow the leading byte of a three-byte sequence. The bounds leave out
overlong forms and surrogates. -/
def secondOfThree (lead second : UInt8) : Bool :=
  if lead = 0xE0 then 0xA0 ≤ second && second ≤ 0xBF
  else if lead = 0xED then 0x80 ≤ second && second ≤ 0x9F
  else isContinuation second

/-- Whether `second` may follow the leading byte of a four-byte sequence. -/
def secondOfFour (lead second : UInt8) : Bool :=
  if lead = 0xF0 then 0x90 ≤ second && second ≤ 0xBF
  else if lead = 0xF4 then 0x80 ≤ second && second ≤ 0x8F
  else isContinuation second

/-- The characters of a byte list in order; `none` stands for one maximal ill-formed run. -/
def scan : Bytes → List (Option Char)
  | [] => []
  | b :: rest =>
    if b < 0x80 then some (Char.ofNat b.toNat) :: scan rest
    else if 0xC2 ≤ b && b ≤ 0xDF then
      match rest with
      | c :: rest1 =>
        if isContinuation c then
          some (Char.ofNat (b.toNat % 32 * 64 + low6 c)) :: scan rest1
        else none :: scan (c :: rest1)
      | [] => [none]
    else if 0xE0 ≤ b && b ≤ 0xEF then
      match rest with
      | c :: rest1 =>
        if secondOfThree b c then
          match rest1 with
          | d :: rest2 =>
            if isContinuation d then
              some (Char.ofNat (b.toNat % 16 * 4096 + low6 c * 64 + low6 d)) :: scan rest2
            else none :: scan (d :: rest2)
          | [] => [none]
        else none :: scan (c :: rest1)
      | [] => [none]
    else if 0xF0 ≤ b && b ≤ 0xF4 then
      match rest with
      | c :: rest1 =>
        if secondOfFour b c then
          match rest1 with
          | d :: rest2 =>
            if isContinuation d then
              match rest2 with
              | e :: rest3 =>
                if isContinuation e then
                  some (Char.ofNat
                    (b.toNat % 8 * 262144 + low6 c * 4096 + low6 d * 64 + low6 e)) :: scan rest3
                else none :: scan (e :: rest3)
              | [] => [none]
            else none :: scan (d :: rest2)
          | [] => [none]
        else none :: scan (c :: rest1)
      | [] => [none]
    else none :: scan rest

/-- Every ill-formed run becomes one replacement character. -/
def decodeLossy (bytes : Bytes) : String :=
  String.ofList ((scan bytes).map (·.getD '\uFFFD'))

/-- The text of well-formed bytes, and nothing for any others. -/
def decode? (bytes : Bytes) : Option String :=
  ((scan bytes).mapM id).map String.ofList

end Utf8
end Gatehouse
