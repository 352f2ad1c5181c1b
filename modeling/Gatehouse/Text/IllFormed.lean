import Gatehouse.Text.Numeral
import Gatehouse.Text.Utf8

/-!
Where bytes stop being UTF-8: the first ill-formed run and its wording in diagnostics.
-/
namespace Gatehouse.Utf8

/-- The first ill-formed run: how many bytes stand before it, and how long it is. A run without a
length is one that more bytes could have completed. -/
structure IllFormed where
  start : Nat
  length : Option Nat
  deriving DecidableEq, Repr

/-- The length of the ill-formed run that bytes begin with. -/
def runLength : Bytes → Option Nat
  | lead :: second :: third :: _ :: _ =>
    if 0xE0 ≤ lead && lead ≤ 0xEF && secondOfThree lead second then some 2
    else if 0xF0 ≤ lead && lead ≤ 0xF4 && secondOfFour lead second then
      if isContinuation third then some 3 else some 2
    else some 1
  | [lead, second, third] =>
    if 0xE0 ≤ lead && lead ≤ 0xEF && secondOfThree lead second then some 2
    else if 0xF0 ≤ lead && lead ≤ 0xF4 && secondOfFour lead second then
      if isContinuation third then none else some 2
    else some 1
  | [lead, second] =>
    if 0xE0 ≤ lead && lead ≤ 0xEF && secondOfThree lead second then none
    else if 0xF0 ≤ lead && lead ≤ 0xF4 && secondOfFour lead second then none
    else some 1
  | [lead] => if 0xC2 ≤ lead && lead ≤ 0xF4 then none else some 1
  | [] => none

/-- The first ill-formed run of some bytes, if there is one. -/
def illFormed? (bytes : Bytes) : Option IllFormed :=
  let scanned := scan bytes
  if scanned.all Option.isSome then none
  else
    let before := (scanned.takeWhile Option.isSome).map (·.getD ' ')
    let start := (encode (String.ofList before)).length
    some ⟨start, runLength (bytes.drop start)⟩

def IllFormed.message (run : IllFormed) : String :=
  match run.length with
  | some length =>
    "invalid utf-8 sequence of " ++ Numeral.decimal length ++ " bytes from index " ++
      Numeral.decimal run.start
  | none => "incomplete utf-8 byte sequence from index " ++ Numeral.decimal run.start

end Gatehouse.Utf8
