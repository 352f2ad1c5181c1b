import Gatehouse.Json.Fault
import Gatehouse.Text.Utf8

/-!
Reading position in a document, and the tokens read from it: blanks, literals, numbers and strings.
A cursor counts lines and columns as it moves, so that every refusal knows its place.
-/
namespace Gatehouse.Json

/-- What is left of a document and how far reading has come. -/
structure Cursor where
  rest : Bytes
  line : Nat
  column : Nat

/-- A refusal that may still lack its place. Some causes are found only after a whole value; the
value's reader then places them where it stands itself. -/
inductive Stop where
  | placed (fault : Fault)
  | unplaced (cause : Cause) (path : List Segment) (cursor : Cursor)

namespace Cursor

/-- The start of a document. -/
def start (document : Bytes) : Cursor := ⟨document, 1, 0⟩

/-- The cursor one byte further on. -/
def next (c : Cursor) : Cursor :=
  match c.rest with
  | [] => c
  | b :: rest => if b = 0x0A then ⟨rest, c.line + 1, 0⟩ else ⟨rest, c.line, c.column + 1⟩

/-- A refusal behind the last byte read. -/
def failHere {α : Type} (c : Cursor) (cause : Cause) : Except Stop α :=
  .error (.placed ⟨cause, c.line, c.column, []⟩)

/-- A refusal at the next byte, which has only been looked at. -/
def failNext {α : Type} (c : Cursor) (cause : Cause) : Except Stop α :=
  c.next.failHere cause

/-- Moves over spaces, tabs and line ends. -/
def skipBlanks (c : Cursor) : Cursor :=
  go c.rest c.line c.column
where
  go : Bytes → Nat → Nat → Cursor
    | [], line, column => ⟨[], line, column⟩
    | b :: rest, line, column =>
      if b = 0x0A then go rest (line + 1) 0
      else if b = 0x20 || b = 0x09 || b = 0x0D then go rest line (column + 1)
      else ⟨b :: rest, line, column⟩

/-- The next byte behind blanks, with the cursor in front of it. -/
def peek (c : Cursor) : Option UInt8 × Cursor :=
  let c := c.skipBlanks
  (c.rest.head?, c)

/-- Reads the rest of a literal whose first letter has been read. -/
def literal (c : Cursor) : List UInt8 → Except Stop Cursor
  | [] => .ok c
  | expected :: more =>
    match c.rest with
    | [] => c.failHere .endInValue
    | b :: _ =>
      if b = expected then c.next.literal more
      else c.next.failHere .expectedIdent

/-- Whether a byte is an ASCII digit. -/
def isDigit (b : UInt8) : Bool := 0x30 ≤ b && b ≤ 0x39

/-- Whether the next byte is an ASCII digit. -/
def atDigit (c : Cursor) : Bool := c.rest.head?.any isDigit

/-- Moves over digits and counts them. -/
def skipDigits (c : Cursor) : Nat × Cursor :=
  go c.rest c.line c.column 0
where
  go : Bytes → Nat → Nat → Nat → Nat × Cursor
    | [], line, column, count => (count, ⟨[], line, column⟩)
    | b :: rest, line, column, count =>
      if isDigit b then go rest line (column + 1) (count + 1)
      else (count, ⟨b :: rest, line, column⟩)

/-- Reads digits onto a number as long as it stays below `limit`, and counts those taken. -/
def takeDigits (limit : Nat) (c : Cursor) (start : Nat) : Nat × Nat × Cursor :=
  go c.rest c.line c.column start 0
where
  go : Bytes → Nat → Nat → Nat → Nat → Nat × Nat × Cursor
    | [], line, column, n, taken => (n, taken, ⟨[], line, column⟩)
    | b :: rest, line, column, n, taken =>
      let grown := n * 10 + (b.toNat - 0x30)
      if isDigit b && grown < limit then go rest line (column + 1) grown (taken + 1)
      else (n, taken, ⟨b :: rest, line, column⟩)

/-- A double from a significand and a power of ten. A product may pass the largest double. -/
def scale (c : Cursor) (positive : Bool) (significand : Nat) (exponent : Int) :
    Except Stop (Number × Cursor) :=
  let base := significand.toUInt64.toFloat
  let signed (x : Float) : Number := .floating (if positive then x else -x)
  if exponent.natAbs ≤ 308 then
    let power := Float.ofScientific 1 false exponent.natAbs
    if 0 ≤ exponent then
      let x := base * power
      if x.isInf then c.failHere .numberOutOfRange else .ok (signed x, c)
    else .ok (signed (base / power), c)
  else if significand = 0 then .ok (signed base, c)
  else if 0 ≤ exponent then c.failHere .numberOutOfRange
  else
    let lowered := base / 1e308
    let remaining := exponent.natAbs - 308
    if remaining ≤ 308 then
      .ok (signed (lowered / Float.ofScientific 1 false remaining), c)
    else .ok (signed 0.0, c)

/-- Reads the exponent part of a number, the letter included. -/
def exponent (c : Cursor) (positive : Bool) (significand : Nat) (start : Int) :
    Except Stop (Number × Cursor) :=
  let c := c.next
  let (up, c) := match c.rest.head? with
    | some 0x2B => (true, c.next)
    | some 0x2D => (false, c.next)
    | _ => (true, c)
  match c.rest.head? with
  | none => c.failHere .endInValue
  | some first =>
    if !isDigit first then c.next.failHere .invalidNumber
    else
      let (power, _, c) := takeDigits (Nat.pow 2 31) c 0
      if c.atDigit then
        -- the place is behind the digit that no longer fits 31 bits
        if significand ≠ 0 && up then c.next.failHere .numberOutOfRange
        else .ok (.floating (if positive then 0.0 else -0.0), c.skipDigits.2)
      else c.scale positive significand (if up then start + power else start - power)

/-- Reads the fraction of a number, the point included, and what follows it. -/
def fraction (c : Cursor) (positive : Bool) (significand : Nat) (start : Int) :
    Except Stop (Number × Cursor) :=
  let (significand, taken, c) := takeDigits (Nat.pow 2 64) c.next significand
  if c.atDigit then
    let c := c.skipDigits.2
    match c.rest.head? with
    | some 0x65 | some 0x45 => c.exponent positive significand (start - taken)
    | _ => c.scale positive significand (start - taken)
  else if taken = 0 then
    match c.rest with
    | [] => c.failNext .endInValue
    | _ => c.failNext .invalidNumber
  else
    match c.rest.head? with
    | some 0x65 | some 0x45 => c.exponent positive significand (start - taken)
    | _ => c.scale positive significand (start - taken)

/-- Reads a number behind its sign. Whole numbers of 64 bits stay whole; minus zero does not. -/
def number (c : Cursor) (positive : Bool) : Except Stop (Number × Cursor) :=
  match c.rest with
  | [] => c.failHere .endInValue
  | first :: _ =>
    if !isDigit first then c.next.failHere .invalidNumber
    else
      let (significand, _, after) :=
        if first = 0x30 then (0, 1, c.next) else takeDigits (Nat.pow 2 64) c 0
      if first = 0x30 && after.atDigit then after.failNext .invalidNumber
      else
        let (dropped, after) := after.skipDigits
        match after.rest.head? with
        | some 0x2E => after.fraction positive significand dropped
        | some 0x65 | some 0x45 => after.exponent positive significand dropped
        | _ =>
          if dropped ≠ 0 then after.scale positive significand dropped
          else if positive then .ok (.unsigned significand, after)
          else if significand = 0 || Nat.pow 2 63 < significand then
            .ok (.floating (-significand.toUInt64.toFloat), after)
          else .ok (.negative (-(significand : Int)), after)

/-- Reads a number whose sign has not been read. -/
def signedNumber (c : Cursor) : Except Stop (Number × Cursor) :=
  match c.rest.head? with
  | some 0x2D => c.next.number false
  | _ => c.number true

/-- Four hexadecimal digits of an escape. -/
def hexEscape (c : Cursor) : Except Stop (Nat × Cursor) :=
  match c.rest with
  | a :: b :: d :: e :: rest =>
    -- none of the four can be a line end unless the escape is refused
    let after := c.next.next.next.next
    let digit (byte : UInt8) := Numeral.hexValue? (Char.ofNat byte.toNat)
    match digit a, digit b, digit d, digit e with
    | some a, some b, some d, some e =>
      .ok (a * 4096 + b * 256 + d * 16 + e, ⟨rest, after.line, after.column⟩)
    | _, _, _, _ => after.failHere .invalidEscape
  | rest => (rest.foldl (fun c _ => c.next) c).failHere .endInString

/-- The character of a `\u` escape, of which the letter has been read. -/
def unicodeEscape (c : Cursor) : Except Stop (Char × Cursor) := do
  let (high, c) ← c.hexEscape
  if 0xDC00 ≤ high && high ≤ 0xDFFF then c.failHere .loneSurrogate
  else if high < 0xD800 || 0xDBFF < high then return (Char.ofNat high, c)
  else
    match c.rest.head? with
    | none => c.failHere .endInString
    | some 0x5C =>
      let c := c.next
      match c.rest.head? with
      | none => c.failHere .endInString
      | some 0x75 =>
        let (low, c) ← c.next.hexEscape
        if low < 0xDC00 || 0xDFFF < low then c.failHere .loneSurrogate
        else return (Char.ofNat ((high - 0xD800) * 1024 + (low - 0xDC00) + 0x10000), c)
      | some _ => c.next.failHere .unfinishedSurrogate
    | some _ => c.next.failHere .unfinishedSurrogate

/-- The character of an escape, of which the backslash has been read. -/
def escaped (c : Cursor) : Except Stop (Char × Cursor) :=
  match c.rest.head? with
  | none => c.failHere .endInString
  | some 0x22 => .ok ('"', c.next)
  | some 0x5C => .ok ('\\', c.next)
  | some 0x2F => .ok ('/', c.next)
  | some 0x62 => .ok ('\x08', c.next)
  | some 0x66 => .ok ('\x0c', c.next)
  | some 0x6E => .ok ('\n', c.next)
  | some 0x72 => .ok ('\r', c.next)
  | some 0x74 => .ok ('\t', c.next)
  | some 0x75 => c.next.unicodeEscape
  | some _ => c.next.failHere .invalidEscape

/-- The bytes of a string up to its closing quote, in reverse, with the cursor in front of the
quote. -/
def stringBytes : Nat → Cursor → Bytes → Except Stop (Bytes × Cursor)
  | 0, c, _ => c.failHere .endInString
  | bound + 1, c, taken =>
    match c.rest with
    | [] => c.failHere .endInString
    | b :: _ =>
      if b = 0x22 then .ok (taken, c)
      else if b = 0x5C then
        match c.next.escaped with
        | .ok (char, c) => stringBytes bound c ((Utf8.encode char.toString).reverse ++ taken)
        | .error stop => .error stop
      else if b < 0x20 then c.next.failHere .controlCharacter
      else stringBytes bound c.next (b :: taken)

/-- Reads a string whose opening quote has been read. -/
def string (c : Cursor) : Except Stop (String × Cursor) := do
  let (taken, c) ← stringBytes (c.rest.length + 1) c []
  match Utf8.decode? taken.reverse with
  | some text => return (text, c.next)
  | none => c.failHere .invalidCodePoint

/-- Moves over a string that nobody reads. Escapes are checked, surrogates and encoding are not. -/
def skipString : Nat → Cursor → Except Stop Cursor
  | 0, c => c.failHere .endInString
  | bound + 1, c =>
    match c.rest with
    | [] => c.failHere .endInString
    | b :: _ =>
      if b = 0x22 then .ok c.next
      else if b = 0x5C then
        match c.next.rest.head? with
        | some 0x75 =>
          match c.next.next.hexEscape with
          | .ok (_, c) => skipString bound c
          | .error stop => .error stop
        | _ =>
          match c.next.escaped with
          | .ok (_, c) => skipString bound c
          | .error stop => .error stop
      else if b < 0x20 then c.failHere .controlCharacter
      else skipString bound c.next

/-- Moves over the digits in front of a point. -/
def skipWhole (c : Cursor) : Except Stop Cursor :=
  match c.rest.head? with
  | some 0x30 => if c.next.atDigit then c.next.failNext .invalidNumber else .ok c.next
  | some b => if isDigit b then .ok c.skipDigits.2 else c.next.failHere .invalidNumber
  | none => c.failHere .invalidNumber

/-- Moves over a point and the digits behind it, if a point stands next. -/
def skipFraction (c : Cursor) : Except Stop Cursor :=
  match c.rest.head? with
  | some 0x2E =>
    let (count, after) := c.next.skipDigits
    if count = 0 then after.failNext .invalidNumber else .ok after
  | _ => .ok c

/-- Moves over a power of ten, if its letter stands next. -/
def skipPower (c : Cursor) : Except Stop Cursor :=
  match c.rest.head? with
  | some 0x65 | some 0x45 =>
    let c := match c.next.rest.head? with
      | some 0x2B | some 0x2D => c.next.next
      | _ => c.next
    if c.atDigit then .ok c.skipDigits.2 else c.next.failHere .invalidNumber
  | _ => .ok c

/-- Moves over a number that nobody reads. -/
def skipNumber (c : Cursor) : Except Stop Cursor := do
  let c ← c.skipWhole
  let c ← c.skipFraction
  c.skipPower

/-- Where `skipValue` stands: in front of a value, or behind one, where a comma may be allowed. -/
inductive SkipState where
  | value
  | item
  | behind (comma : Bool)

/-- Moves over a value that nobody reads. `open` tells for each open bracket whether it is an
object; nothing limits their number. -/
def skipLoop : Nat → SkipState → List Bool → Cursor → Except Stop Cursor
  | 0, _, _, c => c.failHere .endInValue
  | bound + 1, .value, stack, c =>
    let (byte, c) := c.peek
    match byte with
    | none => c.failNext .endInValue
    | some 0x6E => c.next.literal [0x75, 0x6C, 0x6C] >>= skipLoop bound (.behind true) stack
    | some 0x74 => c.next.literal [0x72, 0x75, 0x65] >>= skipLoop bound (.behind true) stack
    | some 0x66 => c.next.literal [0x61, 0x6C, 0x73, 0x65] >>= skipLoop bound (.behind true) stack
    | some 0x2D => c.next.skipNumber >>= skipLoop bound (.behind true) stack
    | some 0x22 => skipString (c.rest.length + 1) c.next >>= skipLoop bound (.behind true) stack
    | some 0x5B => skipLoop bound (.behind false) (false :: stack) c.next
    | some 0x7B => skipLoop bound (.behind false) (true :: stack) c.next
    | some b =>
      if isDigit b then c.skipNumber >>= skipLoop bound (.behind true) stack
      else c.failNext .expectedValue
  | bound + 1, .item, stack, c =>
    if stack.head? = some true then
      let (byte, c) := c.peek
      match byte with
      | some 0x22 =>
        match skipString (c.rest.length + 1) c.next with
        | .error stop => .error stop
        | .ok c =>
          let (byte, c) := c.peek
          match byte with
          | some 0x3A => skipLoop bound .value stack c.next
          | some _ => c.failNext .expectedColon
          | none => c.failNext .endInObject
      | some _ => c.failNext .keyNotText
      | none => c.failNext .endInObject
    else skipLoop bound .value stack c
  | _ + 1, .behind _, [], c => .ok c
  | bound + 1, .behind comma, object :: outer, c =>
    let (byte, c) := c.peek
    match byte with
    | none => c.failNext (if object then .endInObject else .endInList)
    | some b =>
      if b = 0x2C && comma then skipLoop bound .item (object :: outer) c.next
      else if b = (if object then 0x7D else 0x5D) then skipLoop bound (.behind true) outer c.next
      else if comma then
        c.failNext (if object then .expectedObjectSeparator else .expectedListSeparator)
      else skipLoop bound .item (object :: outer) c

/-- Moves over one value. -/
def skipValue (c : Cursor) : Except Stop Cursor :=
  skipLoop (3 * c.rest.length + 3) .value [] c

end Cursor
end Gatehouse.Json
