import Gatehouse.Codec.Percent
import Gatehouse.Http.Address
import Gatehouse.Http.Target
import Gatehouse.Text.Blank

/-!
Addresses of services: scheme, user, password, host, port, path and query. Reading follows the
living standard for addresses as far as it matters to a service that is given one: which texts are
refused and why, and what the parts are.
-/
namespace Gatehouse

/-- Why a text is no address. -/
inductive UrlDefect where
  | noScheme
  | emptyHost
  | port
  | v6Address
  | hostCharacter
  deriving DecidableEq, Repr

def UrlDefect.message : UrlDefect → String
  | noScheme => "relative URL without a base"
  | emptyHost => "empty host"
  | port => "invalid port number"
  | v6Address => "invalid IPv6 address"
  | hostCharacter => "invalid domain character"

/-- An address. User and password are as they are written, percent codes included; a password that
is empty counts as none, and so does a host. -/
structure Url where
  scheme : String
  user : String
  password : Option String
  host : Option String
  port : Option Nat
  path : String
  query : String
  deriving DecidableEq, Repr

namespace Url

/-- Schemes whose addresses always have a host. -/
def hostedSchemes : List String := ["http", "https", "ws", "wss", "ftp"]

/-- The text without blanks and controls at its ends, and without tabs and line ends inside. -/
def cleaned (text : String) : List Char :=
  (Blank.trimWhere (· ≤ ' ') text.toList).filter fun c => c ≠ '\t' && c ≠ '\n' && c ≠ '\r'

/-- The scheme, and what follows its colon. -/
def splitScheme (text : List Char) : Except UrlDefect (String × List Char) :=
  let scheme := text.takeWhile Target.isSchemeChar
  match scheme, text.dropWhile Target.isSchemeChar with
  | first :: _, ':' :: rest =>
    if first.isAlpha then .ok (String.ofList (scheme.map Char.toLower), rest) else .error .noScheme
  | _, _ => .error .noScheme

/-- The text before and behind the last sign `@`, where there is one. -/
def splitLastAt (text : List Char) : Option (List Char × List Char) :=
  if text.contains '@' then
    let host := (text.reverse.takeWhile (· ≠ '@')).reverse
    some (text.take (text.length - host.length - 1), host)
  else none

/-- The text before the first colon that stands in no brackets, and the rest from that colon on. -/
def splitPort : Bool → List Char → List Char × List Char
  | _, [] => ([], [])
  | inBrackets, c :: rest =>
    if c = ':' && !inBrackets then ([], c :: rest)
    else
      let inBrackets := if c = '[' then true else if c = ']' then false else inBrackets
      let (front, back) := splitPort inBrackets rest
      (c :: front, back)

/-- Characters that may not stand in a host. -/
def isForbiddenInHost (c : Char) : Bool :=
  "\x00\t\n\r #/:<>?@[\\]^|".toList.contains c

/-- The host: words in brackets, or a name; an empty name is none. -/
def host? (text : List Char) : Except UrlDefect (Option String) :=
  match text with
  | [] => .ok none
  | '[' :: inner =>
    if inner.getLast? = some ']' then
      match SocketAddress.v6Words? (String.ofList inner.dropLast) with
      | some words => .ok (some ("[" ++ SocketAddress.v6Text words ++ "]"))
      | none => .error .v6Address
    else .error .v6Address
  | _ =>
    if text.any isForbiddenInHost then .error .hostCharacter else .ok (some (String.ofList text))

/-- The port behind its colon; no digits are no port. -/
def port? (text : List Char) : Except UrlDefect (Option Nat) :=
  match text with
  | [] => .ok none
  | digits =>
    match (Numeral.natOfDigits? digits).filter (· ≤ 65535) with
    | some port => .ok (some port)
    | none => .error .port

/-- Whether a path segment means the directory itself. -/
def isHere (segment : String) : Bool := [".", "%2e"].contains segment.toLower

/-- Whether a path segment means the directory above. -/
def isAbove (segment : String) : Bool :=
  ["..", ".%2e", "%2e.", "%2e%2e"].contains segment.toLower

/-- Segments without those that mean a directory. The first argument holds the kept ones, the last
first. -/
def resolve : List String → List String → List String
  | kept, [] => kept.reverse
  | kept, [last] =>
    if isAbove last then ("" :: kept.drop 1).reverse
    else if isHere last then ("" :: kept).reverse
    else (last :: kept).reverse
  | kept, segment :: rest =>
    if isAbove segment then resolve (kept.drop 1) rest
    else if isHere segment then resolve kept rest
    else resolve (segment :: kept) rest

/-- A path in its plain form. -/
def plainPath (path : List Char) : String :=
  match path with
  | '/' :: rest => "/" ++ "/".intercalate (resolve [] ((String.ofList rest).splitOn "/"))
  | _ => String.ofList path

/-- An address with a host part, from what follows the two slashes. -/
def ofAuthority (scheme : String) (text : List Char) : Except UrlDefect Url := do
  let authority := Target.upTo ['/', '?', '#'] text
  let behind := text.drop authority.length
  let (user, hostPart) := (splitLastAt authority).getD ([], authority)
  if authority.head? = some '@' && hostPart.isEmpty && !behind.isEmpty then
    throw .emptyHost
  let name := user.takeWhile (· ≠ ':')
  let password := (user.dropWhile (· ≠ ':')).drop 1
  let (hostText, portText) := splitPort false hostPart
  let host ← host? hostText
  if host.isNone && (!portText.isEmpty || hostedSchemes.contains scheme) then
    throw .emptyHost
  let port ← port? (portText.drop 1)
  if host.isNone && !(name.isEmpty && password.isEmpty) then
    throw .emptyHost
  return {
    scheme, host, port
    user := String.ofList name
    password := if password.isEmpty then none else some (String.ofList password)
    path := plainPath (Target.upTo ['?', '#'] behind)
    query := String.ofList (queryOf behind) }
where
  queryOf (text : List Char) : List Char :=
    match (Target.upTo ['#'] text).dropWhile (· ≠ '?') with
    | _ :: query => query
    | [] => []

/-- Reads an address. -/
def ofText (text : String) : Except UrlDefect Url := do
  let (scheme, rest) ← splitScheme (cleaned text)
  if hostedSchemes.contains scheme then
    ofAuthority scheme (rest.dropWhile fun c => c = '/' || c = '\\')
  else
    match rest with
    | '/' :: '/' :: authority => ofAuthority scheme authority
    | _ =>
      return {
        scheme
        user := "", password := none, host := none, port := none
        path := plainPath (Target.upTo ['?', '#'] rest)
        query := String.ofList (ofAuthority.queryOf rest) }

end Url
end Gatehouse
