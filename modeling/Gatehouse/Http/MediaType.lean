import Gatehouse.Http.Token

/-!
Media types in `content-type` fields, as far as it matters whether a body is JSON.
-/
namespace Gatehouse.MediaType

open HttpToken

/-- What is left behind a parameter value in quotes: blanks, and a semicolon in front of more. -/
def afterQuoted : List Char → Option (List Char)
  | [] => some []
  | ';' :: rest => some rest
  | ' ' :: rest => afterQuoted rest
  | _ => none

/-- The rest behind a quoted text of at least one character. A backslash takes the next character
with it. -/
def quotedValue : Bool → List Char → Option (List Char)
  | _, [] => none
  | _, '\\' :: c :: rest =>
    if 0x1F < c.toNat && c.toNat ≠ 0x7F then quotedValue true rest else none
  | started, c :: rest =>
    if c = '"' && started then afterQuoted rest
    else if 0x1F < c.toNat && c.toNat ≠ 0x7F then quotedValue true rest
    else none

/-- The rest behind a plain value. -/
def plainValue (text : List Char) : Option (List Char) :=
  let value := text.takeWhile isTokenChar
  match text.dropWhile isTokenChar with
  | [] => some []
  | ';' :: rest => if value.isEmpty then none else some rest
  | _ => none

/-- Whether parameters are well formed. The first argument bounds their number. -/
def parametersOk : Nat → List Char → Bool
  | 0, text => text.isEmpty
  | _ + 1, [] => true
  | bound + 1, ' ' :: rest => parametersOk bound rest
  | bound + 1, text =>
    let name := text.takeWhile isTokenChar
    match text.dropWhile isTokenChar with
    | '=' :: rest =>
      if name.isEmpty then false
      else
        let behind := match rest with
          | '"' :: quoted => quotedValue false quoted
          | plain => plainValue plain
        match behind with
        | some more => parametersOk bound more
        | none => false
    | _ => false

/-- The part of a subtype in front of its last plus sign, and the part behind it. A plus sign that
comes first counts as any other character. -/
def splitSuffix (subtype : List Char) : List Char × Option (List Char) :=
  let behind := (subtype.reverse.takeWhile (· ≠ '+')).reverse
  let front := subtype.take (subtype.length - behind.length - 1)
  if behind.length = subtype.length || front.isEmpty then (subtype, none) else (front, some behind)

/-- Whether a media type is JSON: `application/json`, or any `application` type whose name ends in
`+json`, with well-formed parameters. Letters count in either case. -/
def isJson (text : String) : Bool :=
  let text := text.toList.map Char.toLower
  let toplevel := text.takeWhile isTokenChar
  match text.dropWhile isTokenChar with
  | '/' :: rest =>
    let subtype := rest.takeWhile isTokenChar
    let parametersFine := match rest.dropWhile isTokenChar with
      | [] => true
      | ';' :: parameters => !subtype.isEmpty && parametersOk (parameters.length + 1) parameters
      | _ => false
    let (name, suffix) := splitSuffix subtype
    toplevel == "application".toList && parametersFine &&
      (name == "json".toList || suffix == some "json".toList)
  | _ => false

end Gatehouse.MediaType
