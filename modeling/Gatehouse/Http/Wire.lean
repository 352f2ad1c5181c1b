import Gatehouse.Http.Request
import Gatehouse.Http.Target
import Gatehouse.Http.Token
import Gatehouse.Text.Blank

/-!
Messages on the wire. A request is a line, header fields, an empty line, and a body of the length
that the fields state; a response is written with its status line in front.
-/
namespace Gatehouse.Wire

/-- What the bytes that came so far make. -/
inductive Arrival where
  | incomplete
  | malformed
  | complete (request : Request)

/-- The line end. -/
def lineEnd : Bytes := [0x0D, 0x0A]

/-- The bytes before the first empty line, and those behind it. -/
def splitHead : Bytes → Option (Bytes × Bytes)
  | 0x0D :: 0x0A :: 0x0D :: 0x0A :: body => some ([], body)
  | b :: rest => (splitHead rest).map fun (head, body) => (b :: head, body)
  | [] => none

/-- The lines of a head. -/
def lines : Bytes → List Bytes
  | 0x0D :: 0x0A :: rest => [] :: lines rest
  | b :: rest =>
    match lines rest with
    | line :: more => (b :: line) :: more
    | [] => [[b]]
  | [] => [[]]

/-- A value without the spaces and tabs around it. -/
def trimmed (value : Bytes) : Bytes :=
  let isBlank (b : UInt8) : Bool := b = 0x20 || b = 0x09
  ((value.dropWhile isBlank).reverse.dropWhile isBlank).reverse

/-- A header field: a token, a colon and a value. -/
def field? (line : Bytes) : Option (String × Bytes) := do
  let name ← Utf8.decode? (line.takeWhile (· ≠ 0x3A))
  let value ← (line.dropWhile (· ≠ 0x3A)).tail?
  if HttpToken.isToken name then
    some (String.ofList (name.toList.map Char.toLower), trimmed value)
  else none

/-- Method and target of a request line. -/
def requestLine? (line : Bytes) : Option (String × String) := do
  let text ← Utf8.decode? line
  match text.splitOn " " with
  | [method, target, version] =>
    if HttpToken.isToken method && ["HTTP/1.1", "HTTP/1.0"].contains version then
      some (method, target)
    else none
  | _ => none

/-- The request of some lines and a body. -/
def request? (head : List Bytes) (body : Bytes) (peer : Option SocketAddress) : Option Request := do
  let line ← head.head?
  let (method, target) ← requestLine? line
  let fields ← head.tail.mapM field?
  some {
    method, body, peer
    path := Target.path target
    headers := ⟨fields⟩
    route := none
    identity := none }

/-- Reads a request from what came so far. A body whose length is not stated in advance is not
read. -/
def arrival (bytes : Bytes) (peer : Option SocketAddress) : Arrival :=
  match splitHead bytes with
  | none => .incomplete
  | some (head, body) =>
    match request? (lines head) body peer with
    | none => .malformed
    | some request =>
      if request.headers.contains "transfer-encoding" then .malformed
      else
        let length := request.headers.contentLength?.getD 0
        if body.length < length then .incomplete
        else .complete { request with body := body.take length }

/-- The words behind a status. -/
def reason (status : Nat) : String :=
  match status with
  | 200 => "OK"
  | 400 => "Bad Request"
  | 401 => "Unauthorized"
  | 404 => "Not Found"
  | 405 => "Method Not Allowed"
  | 408 => "Request Timeout"
  | 413 => "Payload Too Large"
  | 429 => "Too Many Requests"
  | 500 => "Internal Server Error"
  | _ => ""

/-- A response as bytes; nothing follows it on its connection. -/
def write (response : Response) : Bytes :=
  let line := "HTTP/1.1 " ++ Numeral.decimal response.status ++ " " ++ reason response.status
  let headers := response.headers.set "connection" "close"
  Utf8.encode line ++ lineEnd ++
    (headers.entries.flatMap fun (name, value) =>
      Utf8.encode (name ++ ": ") ++ value ++ lineEnd) ++
    lineEnd ++ response.body

end Gatehouse.Wire
