import Gatehouse.Text.Numeral

/-!
JSON values and their compact text. Members of an object keep their order, so that a document is
written exactly as it was put together.
-/
namespace Gatehouse.Json

/-- A number as documents tell them apart: whole numbers of 64 bits, and all others as doubles. -/
inductive Number where
  | unsigned (n : Nat)
  | negative (n : Int)
  | floating (x : Float)

/-- A JSON document. Repeated members of an object are all kept. -/
inductive Value where
  | null
  | bool (b : Bool)
  | number (n : Number)
  | text (s : String)
  | list (items : List Value)
  | object (members : List (String × Value))

/-- One character inside a JSON string. -/
def escape (c : Char) : String :=
  if c = '"' then "\\\""
  else if c = '\\' then "\\\\"
  else if c = '\x08' then "\\b"
  else if c = '\x0c' then "\\f"
  else if c = '\n' then "\\n"
  else if c = '\r' then "\\r"
  else if c = '\t' then "\\t"
  else if c.toNat < 0x20 then "\\u" ++ String.ofList (Numeral.hexPadded 4 c.toNat)
  else c.toString

/-- A JSON string with its quotes. -/
def quote (text : String) : String :=
  "\"" ++ String.join (text.toList.map escape) ++ "\""

/-- A JSON array of texts that are JSON already. -/
def array (items : List String) : String :=
  "[" ++ ",".intercalate items ++ "]"

/-- A JSON object of member texts that are JSON already. -/
def objectText (members : List (String × String)) : String :=
  "\x7b" ++ ",".intercalate (members.map fun (name, value) => quote name ++ ":" ++ value) ++ "\x7d"

end Gatehouse.Json
