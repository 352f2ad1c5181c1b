import Gatehouse.Text.Utf8
import Gatehouse.Text.Numeral

/-!
Requests and responses as the service handles them. Header names are lower case; a name may carry
several values, which keep their order.
-/
namespace Gatehouse

/-- Header fields in the order they were set. -/
structure Headers where
  entries : List (String × Bytes)
  deriving DecidableEq, Repr

namespace Headers

def empty : Headers := ⟨[]⟩

/-- The first value of a name. -/
def get? (headers : Headers) (name : String) : Option Bytes :=
  headers.entries.lookup name

/-- All values of a name, in order. -/
def getAll (headers : Headers) (name : String) : List Bytes :=
  (headers.entries.filter (·.1 == name)).map (·.2)

def contains (headers : Headers) (name : String) : Bool :=
  headers.entries.any (·.1 == name)

/-- Drops every value of a name. -/
def erase (headers : Headers) (name : String) : Headers :=
  ⟨headers.entries.filter (·.1 != name)⟩

/-- Adds a value behind those a name has. -/
def append (headers : Headers) (name : String) (value : Bytes) : Headers :=
  ⟨headers.entries ++ [(name, value)]⟩

/-- Makes a value the only one of its name. -/
def insert (headers : Headers) (name : String) (value : Bytes) : Headers :=
  (headers.erase name).append name value

/-- Sets a value where the name has none. -/
def insertIfAbsent (headers : Headers) (name : String) (value : Bytes) : Headers :=
  if headers.contains name then headers else headers.append name value

/-- Sets a textual value where the name has none. -/
def default (headers : Headers) (name value : String) : Headers :=
  headers.insertIfAbsent name (Utf8.encode value)

/-- Makes a text the only value of its name. -/
def set (headers : Headers) (name value : String) : Headers :=
  headers.insert name (Utf8.encode value)

end Headers

/-- Header text: tabs and printable ASCII only. Other values have no text. -/
def headerText? (value : Bytes) : Option String :=
  if value.all fun b => b = 0x09 || (0x20 ≤ b && b < 0x7F) then
    some (String.ofList (value.map fun b => Char.ofNat b.toNat))
  else none

/-- The number in a `content-length` field, where there is one that fits 64 bits. -/
def Headers.contentLength? (headers : Headers) : Option Nat :=
  (headers.get? "content-length").bind fun value =>
    (headerText? value).bind fun text => Numeral.unsigned? 18446744073709551615 text.toList

/-- A response. `sized` is false where the length of the body is not known in advance. -/
structure Response where
  status : Nat
  headers : Headers
  body : Bytes
  sized : Bool
  deriving DecidableEq, Repr

namespace Response

/-- A response with a status alone. -/
def ofStatus (status : Nat) : Response :=
  ⟨status, .empty, [], true⟩

/-- A text of a given media type. -/
def ofText (status : Nat) (mediaType body : String) : Response :=
  ⟨status, Headers.empty.set "content-type" mediaType, Utf8.encode body, true⟩

/-- Plain text. -/
def plain (body : String) : Response :=
  ofText 200 "text/plain; charset=utf-8" body

/-- JSON text. -/
def json (body : String) : Response :=
  ofText 200 "application/json" body

def mapHeaders (f : Headers → Headers) (response : Response) : Response :=
  { response with headers := f response.headers }

end Response
end Gatehouse
