import Gatehouse.Redis.Failure
import Gatehouse.Text.Quoted
import Gatehouse.Text.Utf8

/-!
Replies of a Redis server and the values in them. A reply that holds an error anywhere is that
error; every other reply is a value, which is read as what the command promises.
-/
namespace Gatehouse.Redis

/-- A reply as it is sent. -/
inductive Reply where
  | nil
  | integer (n : Int)
  | bulk (bytes : Bytes)
  | status (text : String)
  | error (line : String)
  | array (items : List Reply)

/-- A reply that holds no error. -/
inductive Value where
  | nil
  | integer (n : Int)
  | bulk (bytes : Bytes)
  | status (text : String)
  | array (items : List Value)

mutual

/-- The value of a reply, or the first error in it. -/
def Reply.value : Reply → Except ServerError Value
  | .nil => .ok .nil
  | .integer n => .ok (.integer n)
  | .bulk bytes => .ok (.bulk bytes)
  | .status text => .ok (.status text)
  | .error line => .error (.ofLine line)
  | .array items =>
    match Reply.values items with
    | .ok values => .ok (.array values)
    | .error e => .error e

/-- The values of replies in order, or the first error in them. -/
def Reply.values : List Reply → Except ServerError (List Value)
  | [] => .ok []
  | reply :: rest =>
    match reply.value, Reply.values rest with
    | .error e, _ => .error e
    | .ok _, .error e => .error e
    | .ok value, .ok values => .ok (value :: values)

end

/-- The error that a reply itself is; errors inside an array do not count. -/
def Reply.error? : Reply → Option ServerError
  | .error line => some (.ofLine line)
  | _ => none

namespace Value

mutual

/-- A value in diagnostics. -/
def describe : Value → String
  | .nil => "nil"
  | .integer n => "int(" ++ Numeral.signed n ++ ")"
  | .bulk bytes =>
    match Utf8.decode? bytes with
    | some text => "bulk-string(\x27" ++ Quoted.quote text ++ "\x27)"
    | none =>
      "binary-data([" ++ ", ".intercalate (bytes.map fun b => Numeral.decimal b.toNat) ++ "])"
  | .status text => if text = "OK" then "ok" else "simple-string(" ++ Quoted.quote text ++ ")"
  | .array items => "array([" ++ ", ".intercalate (describeAll items) ++ "])"

def describeAll : List Value → List String
  | [] => []
  | item :: rest => describe item :: describeAll rest

end

/-- The refusal of a value. -/
def refuse {α : Type} (value : Value) (reason : String) : Except ShapeError α :=
  .error (.incompatible reason value.describe)

/-- A number: an integer, or text that is one in decimal. -/
def toInt (value : Value) : Except ShapeError Int :=
  let ofText (text : String) : Except ShapeError Int :=
    match Numeral.int64? text.toList with
    | some n => .ok n
    | none => value.refuse "Could not convert from string."
  match value with
  | .integer n => .ok n
  | .bulk bytes =>
    match Utf8.decode? bytes with
    | some text => ofText text
    | none => .error .invalidText
  | .status text =>
    if text = "OK" then value.refuse "Response type not convertible to numeric." else ofText text
  | _ => value.refuse "Response type not convertible to numeric."

/-- A list of numbers: an array of them, one bulk text, or nothing at all. -/
def toInts (value : Value) : Except ShapeError (List Int) :=
  match value with
  | .nil => .ok []
  | .array items => items.mapM toInt
  | .bulk _ => do return [← value.toInt]
  | _ => value.refuse "Response type not vector compatible."

/-- A text: of any kind of text, or of a number. -/
def toText (value : Value) : Except ShapeError String :=
  match value with
  | .integer n => .ok (Numeral.signed n)
  | .status text => .ok text
  | .bulk bytes =>
    match Utf8.decode? bytes with
    | some text => .ok text
    | none => .error .inconvertibleText
  | _ => value.refuse "Response type not string compatible."

end Value
end Gatehouse.Redis
