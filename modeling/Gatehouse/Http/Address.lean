import Gatehouse.Text.Numeral

/-!
Transport addresses. Reading accepts dotted and colon notation with a port, printing gives the one
canonical text of each address.
-/
namespace Gatehouse

/-- An address and a port: four octets, or eight words with a zone number. -/
inductive SocketAddress where
  | v4 (octets : List Nat) (port : Nat)
  | v6 (words : List Nat) (zone : Nat) (port : Nat)
  deriving DecidableEq, Repr

namespace SocketAddress

/-- Four decimal octets. -/
def octets? (text : List Char) : Option (List Nat) :=
  let parts := ((String.ofList text).splitOn ".").map (·.toList)
  if parts.length = 4 then
    parts.mapM fun part =>
      if part.length ≤ 3 ∧ (part.length = 1 ∨ part.head? ≠ some '0') then
        (Numeral.natOfDigits? part).filter (· ≤ 255)
      else none
  else none

/-- A word of one to four hexadecimal digits. -/
def word? (text : List Char) : Option Nat :=
  if text.isEmpty || 4 < text.length then none
  else text.foldlM (fun acc c => (Numeral.hexValue? c).map (acc * 16 + ·)) 0

/-- Words between single colons; four octets may stand for the last two. -/
def words? (text : List Char) : Option (List Nat) :=
  if text.isEmpty then some []
  else
    let parts := ((String.ofList text).splitOn ":").map (·.toList)
    let last := parts.getLast?.getD []
    if last.contains '.' then do
      let front ← parts.dropLast.mapM word?
      match ← octets? last with
      | [a, b, c, d] => return front ++ [a * 256 + b, c * 256 + d]
      | _ => none
    else parts.mapM word?

/-- Eight words, of which one double colon may stand for a run of zeros. -/
def v6Words? (text : String) : Option (List Nat) :=
  match text.splitOn "::" with
  | [whole] => (words? whole.toList).filter (·.length = 8)
  | [front, back] => do
    let front ← words? front.toList
    let back ← words? back.toList
    if front.length + back.length < 8 then
      return front ++ List.replicate (8 - front.length - back.length) 0 ++ back
    else none
  | _ => none

/-- Reads an address with its port. -/
def parse? (text : String) : Option SocketAddress :=
  match text.toList with
  | '[' :: rest =>
    let inner := rest.takeWhile (· ≠ ']')
    match rest.dropWhile (· ≠ ']') with
    | ']' :: ':' :: port => do
      let port ← (Numeral.natOfDigits? port).filter (· ≤ 65535)
      let zone ← match inner.dropWhile (· ≠ '%') with
        | '%' :: zone => (Numeral.natOfDigits? zone).filter (· < 4294967296)
        | _ => some 0
      let words ← v6Words? (String.ofList (inner.takeWhile (· ≠ '%')))
      return .v6 words zone port
    | _ => none
  | whole => do
    let octets ← octets? (whole.takeWhile (· ≠ ':'))
    match whole.dropWhile (· ≠ ':') with
    | ':' :: port =>
      let port ← (Numeral.natOfDigits? port).filter (· ≤ 65535)
      return .v4 octets port
    | _ => none

/-- The first longest run of zeros: where it starts and how long it is. -/
def longestZeroRun (words : List Nat) : Nat × Nat :=
  let runAt (start : Nat) : Nat := ((words.drop start).takeWhile (· = 0)).length
  (List.range words.length).foldl
    (fun (best : Nat × Nat) start => if best.2 < runAt start then (start, runAt start) else best)
    (0, 0)

def wordsText (words : List Nat) : String :=
  ":".intercalate (words.map Numeral.hex)

def octetsText (octets : List Nat) : String :=
  ".".intercalate (octets.map Numeral.decimal)

/-- The canonical text of eight words: the first longest run of two or more zeros is left out, and
an embedded address of four octets is written as such. -/
def v6Text (words : List Nat) : String :=
  match words with
  | [0, 0, 0, 0, 0, 0xFFFF, high, low] =>
    "::ffff:" ++ octetsText [high / 256, high % 256, low / 256, low % 256]
  | _ =>
    let (start, length) := longestZeroRun words
    if 1 < length then
      wordsText (words.take start) ++ "::" ++ wordsText (words.drop (start + length))
    else wordsText words

/-- The canonical text of an address. -/
def toText : SocketAddress → String
  | .v4 octets port => octetsText octets ++ ":" ++ Numeral.decimal port
  | .v6 words zone port =>
    "[" ++ v6Text words ++ (if zone = 0 then "" else "%" ++ Numeral.decimal zone) ++ "]:" ++
      Numeral.decimal port

end SocketAddress
end Gatehouse
