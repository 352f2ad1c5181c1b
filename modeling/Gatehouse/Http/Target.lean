/-!
Request targets. Only the path matters to the service: the query and the fragment are left out, an
absolute address counts with its own path, and a bare authority has none.
-/
namespace Gatehouse.Target

/-- The part of a text before the first of some characters. -/
def upTo (stops : List Char) (text : List Char) : List Char :=
  text.takeWhile (!stops.contains ·)

/-- Whether a character may stand in a scheme. -/
def isSchemeChar (c : Char) : Bool :=
  c.isAlphanum || c = '+' || c = '-' || c = '.'

/-- What follows `scheme://`, where the text starts with a scheme. -/
def afterScheme? (text : List Char) : Option (List Char) :=
  let scheme := text.takeWhile isSchemeChar
  match text.dropWhile isSchemeChar with
  | ':' :: '/' :: '/' :: rest => if scheme.isEmpty then none else some rest
  | _ => none

/-- The path of a request target. -/
def path (target : String) : String :=
  let text := target.toList
  match text with
  | '/' :: _ => String.ofList (upTo ['?', '#'] text)
  | ['*'] => "*"
  | _ =>
    match afterScheme? text with
    | none => ""
    | some rest =>
      let behind := rest.drop (upTo ['/', '?', '#'] rest).length
      match upTo ['?', '#'] behind with
      | [] => "/"
      | found => String.ofList found

end Gatehouse.Target
