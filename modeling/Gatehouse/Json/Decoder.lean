import Gatehouse.Json.Cursor

/-!
Typed reading. A decoder reads one value of a known shape straight from the text, so that a wrong
shape early in a document is reported before malformed text behind it. Records read from an object,
or from a list of their fields in order.
-/
namespace Gatehouse.Json

/-- Reads a value at a cursor. The first argument is how many more brackets may be opened, plus
one. -/
abbrev Decoder (α : Type) := Nat → Cursor → Except Stop (α × Cursor)

namespace Decoder

/-- The deepest nesting of brackets, plus one. -/
def depthLimit : Nat := 128

/-- Opens one bracket. -/
def enter {α : Type} (inner : Decoder α) : Decoder α
  | depth + 2, c => inner (depth + 1) c.next
  | _, c => c.failNext .tooDeep

/-- Reads whatever stands at the cursor in order to say that something else was expected. -/
def mismatch {α : Type} (expected : String) (c : Cursor) : Except Stop α := do
  match c.rest.head? with
  | some 0x6E =>
    let c ← c.next.literal [0x75, 0x6C, 0x6C]
    c.failHere (.wrongType .null expected)
  | some 0x74 =>
    let c ← c.next.literal [0x72, 0x75, 0x65]
    c.failHere (.wrongType (.bool true) expected)
  | some 0x66 =>
    let c ← c.next.literal [0x61, 0x6C, 0x73, 0x65]
    c.failHere (.wrongType (.bool false) expected)
  | some 0x22 =>
    let (text, c) ← c.next.string
    c.failHere (.wrongType (.text text) expected)
  | some 0x5B => c.failHere (.wrongType .sequence expected)
  | some 0x7B => c.failHere (.wrongType .mapping expected)
  | some b =>
    if b = 0x2D || Cursor.isDigit b then
      let (n, c) ← c.signedNumber
      c.failHere (.wrongType (.number n) expected)
    else c.failNext .expectedValue
  | none => c.failNext .expectedValue

/-- Looks at the first byte of a value, which must be there. -/
def withFirst {α : Type} (inner : UInt8 → Cursor → Except Stop α) (c : Cursor) : Except Stop α :=
  match c.peek with
  | (some b, c) => inner b c
  | (none, c) => c.failNext .endInValue

/-- A truth value. -/
def bool : Decoder Bool := fun _ => withFirst fun b c => do
  if b = 0x74 then
    return (true, ← c.next.literal [0x72, 0x75, 0x65])
  else if b = 0x66 then
    return (false, ← c.next.literal [0x61, 0x6C, 0x73, 0x65])
  else mismatch "a boolean" c

/-- A whole number that `accept` takes; `expected` names its kind. -/
def integer {α : Type} (expected : String) (accept : Int → Option α) : Decoder α :=
  fun _ => withFirst fun b c => do
    if b = 0x2D || Cursor.isDigit b then
      let (n, c) ← c.signedNumber
      match n with
      | .unsigned k =>
        match accept k with
        | some a => return (a, c)
        | none => c.failHere (.wrongValue n expected)
      | .negative k =>
        match accept k with
        | some a => return (a, c)
        | none => c.failHere (.wrongValue n expected)
      | .floating _ => c.failHere (.wrongType (.number n) expected)
    else mismatch expected c

/-- A number from zero to `limit`. -/
def natUpTo (expected : String) (limit : Nat) : Decoder Nat :=
  integer expected fun n => if 0 ≤ n ∧ n ≤ limit then some n.toNat else none

def uint16 : Decoder Nat := natUpTo "u16" 65535
def uint32 : Decoder Nat := natUpTo "u32" 4294967295
def uint64 : Decoder Nat := natUpTo "u64" 18446744073709551615
def wordSize : Decoder Nat := natUpTo "usize" 18446744073709551615

/-- A number that fits a signed word of 64 bits. -/
def int64 : Decoder Int :=
  integer "i64" fun n =>
    if -9223372036854775808 ≤ n ∧ n ≤ 9223372036854775807 then some n else none

/-- A text where `expected` is named. -/
def textAs (expected : String) : Decoder String := fun _ => withFirst fun b c =>
  if b = 0x22 then c.next.string else mismatch expected c

def text : Decoder String := textAs "a string"

/-- Null, or a value. -/
def optional {α : Type} (inner : Decoder α) : Decoder (Option α) := fun depth c => do
  match c.peek with
  | (some 0x6E, c) => return (none, ← c.next.literal [0x75, 0x6C, 0x6C])
  | (_, c) =>
    let (a, c) ← inner depth c
    return (some a, c)

/-- Null alone, where `unit` is named. -/
def unit : Decoder Unit := fun _ => withFirst fun b c => do
  if b = 0x6E then return ((), ← c.next.literal [0x75, 0x6C, 0x6C])
  else mismatch "unit" c

/-- A refusal inside a part gets the step to that part. -/
def inside {α : Type} (segment : Segment) : Except Stop α → Except Stop α
  | .error (.placed fault) => .error (.placed { fault with path := segment :: fault.path })
  | .error (.unplaced cause path c) => .error (.unplaced cause (segment :: path) c)
  | .ok a => .ok a

/-- The cursor in front of the next list item, or nothing in front of the closing bracket. -/
def nextItem (first : Bool) (c : Cursor) : Except Stop (Option Cursor) :=
  match c.peek with
  | (none, c) => c.failNext .endInList
  | (some 0x5D, _) => .ok none
  | (some b, c) =>
    if first then .ok (some c)
    else if b = 0x2C then
      match c.next.peek with
      | (some 0x5D, c) => c.failNext .trailingComma
      | (some _, c) => .ok (some c)
      | (none, c) => c.failNext .endInValue
    else c.failNext .expectedListSeparator

/-- The next member name and the cursor behind it, or nothing in front of the closing brace. -/
def nextMember (first : Bool) (c : Cursor) : Except Stop (Option (String × Cursor)) :=
  match c.peek with
  | (none, c) => c.failNext .endInObject
  | (some 0x7D, _) => .ok none
  | (some b, c) =>
    if first then
      if b = 0x22 then c.next.string.map some else c.failNext .keyNotText
    else if b = 0x2C then
      match c.next.peek with
      | (some 0x22, c) => c.next.string.map some
      | (some 0x7D, c) => c.failNext .trailingComma
      | (some _, c) => c.failNext .keyNotText
      | (none, c) => c.failNext .endInValue
    else c.failNext .expectedObjectSeparator

/-- The colon behind a member name. -/
def colon (c : Cursor) : Except Stop Cursor :=
  match c.peek with
  | (some 0x3A, c) => .ok c.next
  | (some _, c) => c.failNext .expectedColon
  | (none, c) => c.failNext .endInObject

/-- The closing brace, and how far looking for it went. -/
def closeObject (c : Cursor) : Option Cause × Cursor :=
  match c.peek with
  | (some 0x7D, c) => (none, c.next)
  | (some 0x2C, c) => (some .trailingComma, c)
  | (some _, c) => (some .trailingCharacters, c)
  | (none, c) => (some .endInObject, c)

/-- The closing bracket, and how far looking for it went. -/
def closeList (c : Cursor) : Option Cause × Cursor :=
  match c.peek with
  | (some 0x5D, c) => (none, c.next)
  | (some 0x2C, c) =>
    match c.next.peek with
    | (some 0x5D, c) => (some .trailingComma, c)
    | (_, c) => (some .trailingCharacters, c)
  | (some _, c) => (some .trailingCharacters, c)
  | (none, c) => (some .endInList, c)

/-- Closes a bracket behind its contents. A refusal that has no place yet gets it here, behind the
closing bracket if that follows. -/
def closing {α : Type} (close : Cursor → Option Cause × Cursor) :
    Except Stop (α × Cursor) → Except Stop (α × Cursor)
  | .ok (a, c) =>
    match close c with
    | (none, c) => .ok (a, c)
    | (some cause, c) => c.failNext cause
  | .error (.unplaced cause path c) =>
    let c := (close c).2
    .error (.placed ⟨cause, c.line, c.column, path⟩)
  | .error (.placed fault) => .error (.placed fault)

/-- The items of a list up to its end, in order. -/
def itemsLoop {α : Type} (item : Cursor → Except Stop (α × Cursor)) :
    Nat → Nat → List α → Cursor → Except Stop (List α × Cursor)
  | 0, _, _, c => c.failHere .endInList
  | bound + 1, index, taken, c => do
    match ← nextItem (index == 0) c with
    | none => return (taken.reverse, c)
    | some c =>
      let (a, c) ← inside (.item index) (item c)
      itemsLoop item bound (index + 1) (a :: taken) c

/-- A list of values of one shape. -/
def list {α : Type} (item : Decoder α) : Decoder (List α) := fun depth => withFirst fun b c =>
  if b = 0x5B then
    closing closeList
      (enter (fun depth c => itemsLoop (item depth) (c.rest.length + 2) 0 [] c) depth c)
  else mismatch "a sequence" c

/-- One of some names. An object with that name as its only member, and null as its value, stands
for the name too. -/
def choice {α : Type} (known : List (String × α)) : Decoder α := fun depth c =>
  let name (c : Cursor) : Except Stop (α × Cursor) := do
    let (text, c) ← textAs "variant identifier" depth c
    match known.lookup text with
    | some a => return (a, c)
    | none => c.failHere (.unknownVariant text (known.map Prod.fst))
  match c.peek with
  | (some 0x22, c) => name c
  | (some 0x7B, c) => enter (fun depth c => do
      let (a, c) ← name c
      let c ← colon c
      let ((), c) ← unit depth c
      match c.peek with
      | (some 0x7D, c) => return (a, c.next)
      | (some _, c) => c.failHere .expectedValue
      | (none, c) => c.failHere .endInObject) depth c
  | (some _, c) => c.failNext .expectedValue
  | (none, c) => c.failNext .endInValue

/-- Any value at all, kept as it is. The recursion is on the nesting that is left. -/
def anyValue : Decoder Value
  | 0, c => c.failNext .tooDeep
  | depth + 1, c => (withFirst fun b c => do
    if b = 0x6E then return (.null, ← c.next.literal [0x75, 0x6C, 0x6C])
    else if b = 0x74 then return (.bool true, ← c.next.literal [0x72, 0x75, 0x65])
    else if b = 0x66 then return (.bool false, ← c.next.literal [0x61, 0x6C, 0x73, 0x65])
    else if b = 0x22 then
      let (text, c) ← c.next.string
      return (.text text, c)
    else if b = 0x2D || Cursor.isDigit b then
      let (n, c) ← c.signedNumber
      return (.number n, c)
    else if b = 0x5B then
      if depth = 0 then c.failNext .tooDeep
      else
        closing closeList do
          let (items, c) ← itemsLoop (anyValue depth) (c.rest.length + 1) 0 [] c.next
          return (.list items, c)
    else if b = 0x7B then
      if depth = 0 then c.failNext .tooDeep
      else
        closing closeObject do
          let (members, c) ← membersLoop (anyValue depth) (c.rest.length + 1) true [] c.next
          return (.object members, c)
    else c.failNext .expectedValue) c
where
  /-- The members of an object up to its end, in order. -/
  membersLoop (value : Cursor → Except Stop (Value × Cursor)) :
      Nat → Bool → List (String × Value) → Cursor →
        Except Stop (List (String × Value) × Cursor)
    | 0, _, _, c => c.failHere .endInObject
    | bound + 1, first, taken, c => do
      match ← nextMember first c with
      | none => return (taken.reverse, c)
      | some (key, c) =>
        let c ← colon c
        let (v, c) ← inside (.member key) (value c)
        membersLoop value bound false ((key, v) :: taken) c

/-- One field of a record: its name, whether it must be present, and how its value is put in. -/
structure Field (σ : Type) where
  name : String
  isRequired : Bool
  read : Decoder (σ → σ)

/-- A field that may be absent; `set` puts its value into the record. -/
def Field.optional {σ α : Type} (name : String) (value : Decoder α) (set : α → σ → σ) : Field σ :=
  ⟨name, false, fun depth c => do
    let (a, c) ← value depth c
    return (set a, c)⟩

/-- A field that must be present. -/
def Field.required {σ α : Type} (name : String) (value : Decoder α) (set : α → σ → σ) : Field σ :=
  { Field.optional name value set with isRequired := true }

/-- The shape of a record: its name in refusals, its fields in order, and the record that absent
fields leave as it is. With `shortLists` a list may end before the last fields. -/
structure Shape (σ : Type) where
  name : String
  fields : List (Field σ)
  blank : σ
  shortLists : Bool

/-- What a list of the fields of a record is called in refusals. -/
def Shape.expectedItems {σ : Type} (shape : Shape σ) : String :=
  let count := shape.fields.length
  "struct " ++ shape.name ++ " with " ++ Numeral.decimal count ++
    (if count = 1 then " element" else " elements")

/-- The members of a record up to its end. `other` reads the value of an unknown member and may keep
it. -/
def recordMembers {σ : Type} (fields : List (Field σ)) (depth : Nat)
    (other : Cursor → Except Stop (Option Value × Cursor)) :
    Nat → List String → List (String × Value) → Bool → σ → Cursor →
      Except Stop ((σ × List String × List (String × Value)) × Cursor)
  | 0, _, _, _, _, c => c.failHere .endInObject
  | bound + 1, seen, kept, first, record, c => do
    match ← nextMember first c with
    | none => return ((record, seen, kept.reverse), c)
    | some (key, c) =>
      match fields.find? (·.name == key) with
      | some field =>
        if seen.contains key then .error (.unplaced (.duplicateField key) [] c)
        else
          let c ← colon c
          let (put, c) ← inside (.member key) (field.read depth c)
          recordMembers fields depth other bound (key :: seen) kept false (put record) c
      | none =>
        let c ← colon c
        let (value, c) ← inside (.member key) (other c)
        let kept := match value with
          | some value => (key, value) :: kept
          | none => kept
        recordMembers fields depth other bound seen kept false record c

/-- The fields of a record from a list, in order. -/
def recordItems {σ : Type} (shape : Shape σ) (depth : Nat) :
    List (Field σ) → Nat → σ → Cursor → Except Stop (σ × Cursor)
  | [], _, record, c => return (record, c)
  | field :: more, index, record, c => do
    match ← nextItem (index == 0) c with
    | some c =>
      let (put, c) ← inside (.item index) (field.read depth c)
      recordItems shape depth more (index + 1) (put record) c
    | none =>
      if shape.shortLists then return (record, c)
      else .error (.unplaced (.wrongLength index shape.expectedItems) [] c)

/-- The first required field that has not been seen is a refusal. -/
def checkRequired {σ : Type} (fields : List (Field σ)) (seen : List String) (c : Cursor) :
    Except Stop Unit :=
  match fields.find? fun field => field.isRequired && !seen.contains field.name with
  | some field => .error (.unplaced (.missingField field.name) [] c)
  | none => .ok ()

/-- A record, from an object or from a list. -/
def record {σ : Type} (shape : Shape σ) : Decoder σ := fun depth => withFirst fun b c =>
  if b = 0x7B then
    closing closeObject (enter (fun depth c => do
      let skip (c : Cursor) : Except Stop (Option Value × Cursor) :=
        c.skipValue.map fun c => (none, c)
      let ((record, seen, _), c) ←
        recordMembers shape.fields depth skip (c.rest.length + 1) [] [] true shape.blank c
      checkRequired shape.fields seen c
      return (record, c)) depth c)
  else if b = 0x5B then
    closing closeList
      (enter (fun depth c => recordItems shape depth shape.fields 0 shape.blank c) depth c)
  else mismatch ("struct " ++ shape.name) c

/-- A record whose unknown members are kept and handed to `finish`. It reads from objects only. -/
def openRecord {σ τ : Type} (shape : Shape σ)
    (finish : σ → List (String × Value) → Except Cause τ) : Decoder τ :=
  fun depth => withFirst fun b c =>
    if b = 0x7B then
      closing closeObject (enter (fun depth c => do
        let keep (c : Cursor) : Except Stop (Option Value × Cursor) :=
          (anyValue depth c).map fun (value, c) => (some value, c)
        let ((record, seen, kept), c) ←
          recordMembers shape.fields depth keep (c.rest.length + 1) [] [] true shape.blank c
        checkRequired shape.fields seen c
        match finish record kept with
        | .ok result => return (result, c)
        | .error cause => .error (.unplaced cause [] c)) depth c)
    else mismatch ("struct " ++ shape.name) c

/-- Reads a whole document: one value, and nothing but blanks around it. -/
def run {α : Type} (decoder : Decoder α) (document : Bytes) : Except Fault α :=
  let outcome := do
    let (a, c) ← decoder depthLimit (Cursor.start document)
    match c.peek with
    | (none, _) => return a
    | (some _, c) => c.failNext .trailingCharacters
  match outcome with
  | .ok a => .ok a
  | .error (.placed fault) => .error fault
  | .error (.unplaced cause path c) => .error ⟨cause, c.line, c.column, path⟩

end Decoder

/-- What a value is called where another was expected. -/
def Value.found : Value → Found
  | .null => .null
  | .bool b => .bool b
  | .number n => .number n
  | .text s => .text s
  | .list _ => .sequence
  | .object _ => .mapping

end Gatehouse.Json
