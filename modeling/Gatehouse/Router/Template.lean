import Gatehouse.Text.Quoted

/-!
Route templates. A template is literal text with parameters in braces: a parameter stands for one
segment or for the end of one, a starred one for everything that is left. Doubled braces are
literal.
-/
namespace Gatehouse.Router

/-- A part of a template. -/
inductive Piece where
  | literal (c : Char)
  | parameter (name : String)
  | rest (name : String)
  deriving DecidableEq, Repr

/-- A template as written, and its parts. -/
structure Template where
  text : String
  pieces : List Piece
  deriving DecidableEq, Repr

/-- Why a text is no template. -/
inductive TemplateDefect where
  | empty
  | relative
  | colonSegment
  | starSegment
  | parameterName
  | parameterSegment
  | restNotLast
  deriving DecidableEq, Repr

/-- The wording of a defect. Those found by the matcher name the template. -/
def TemplateDefect.message (text : String) : TemplateDefect → String
  | empty => "Paths must start with a \x60/\x60. Use \"/\" for root routes"
  | relative => "Paths must start with a \x60/\x60"
  | colonSegment =>
    "Path segments must not start with \x60:\x60. For capture groups, use " ++
      "\x60\x7bcapture\x7d\x60. If you meant to literally match a segment starting with a " ++
      "colon, call \x60without_v07_checks\x60 on the router."
  | starSegment =>
    "Path segments must not start with \x60*\x60. For wildcard capture, use " ++
      "\x60\x7b*wildcard\x7d\x60. If you meant to literally match a segment starting with an " ++
      "asterisk, call \x60without_v07_checks\x60 on the router."
  | parameterName => invalid "Parameters must be registered with a valid name"
  | parameterSegment => invalid "Only one parameter is allowed per path segment"
  | restNotLast => invalid "Catch-all parameters are only allowed at the end of a route"
where
  invalid (reason : String) : String :=
    "Invalid route " ++ Quoted.quote text ++ ": " ++ reason

/-- A character of a template, and whether it is a literal brace. -/
abbrev Mark := Char × Bool

/-- Doubled braces become literal ones, from the left. -/
def unescape : List Char → List Mark
  | '{' :: '{' :: rest => ('{', true) :: unescape rest
  | '}' :: '}' :: rest => ('}', true) :: unescape rest
  | c :: rest => (c, false) :: unescape rest
  | [] => []

/-- Reads a parameter name up to its brace. The first character has been taken already; of those
behind it, stars and slashes are refused. -/
def parameterName (name : List Char) :
    List Mark → Except TemplateDefect (List Char × List Mark)
  | [] => .error .parameterName
  | ('}', false) :: rest =>
    if name.head? = some '*' then .error .parameterName
    else if rest.head?.any (·.1 ≠ '/') then .error .parameterSegment
    else .ok (name.reverse, rest)
  | ('*', _) :: _ => .error .parameterName
  | ('/', _) :: _ => .error .parameterName
  | (c, _) :: rest => parameterName (c :: name) rest

/-- The parts of a template. Each step takes at least one character, which bounds the recursion. -/
def readPieces : Nat → List Mark → Except TemplateDefect (List Piece)
  | 0, _ => .ok []
  | _ + 1, [] => .ok []
  | _ + 1, ('}', false) :: _ => .error .parameterName
  | _ + 1, ('{', false) :: [] => .error .parameterName
  | _ + 1, ('{', false) :: ('}', _) :: _ => .error .parameterName
  | bound + 1, ('{', false) :: (first, _) :: rest => do
    let (name, rest) ← parameterName [first] rest
    let more ← readPieces bound rest
    match name with
    | '*' :: name => return .rest (String.ofList name) :: more
    | name => return .parameter (String.ofList name) :: more
  | bound + 1, (c, _) :: rest => do
    return .literal c :: (← readPieces bound rest)

/-- Whether a starred parameter has anything behind it. -/
def hasEarlyRest : List Piece → Bool
  | [] => false
  | .rest _ :: more => !more.isEmpty
  | _ :: more => hasEarlyRest more

/-- The segments of a text between slashes. -/
def segments (text : String) : List (List Char) :=
  text.toList.splitOn '/'

namespace Template

/-- The first segment that starts with a colon or a star, if any does. -/
def segmentDefect? (text : String) : Option TemplateDefect :=
  (segments text).findSome? fun segment =>
    match segment with
    | ':' :: _ => some .colonSegment
    | '*' :: _ => some .starSegment
    | _ => none

/-- What is refused before the parts are looked at. -/
def checkText (text : String) : Except TemplateDefect Unit :=
  match text.toList with
  | [] => .error .empty
  | '/' :: _ =>
    match segmentDefect? text with
    | some defect => .error defect
    | none => .ok ()
  | _ => .error .relative

/-- The template of a text that has passed `checkText`. -/
def ofChecked (text : String) : Except TemplateDefect Template := do
  let marks := unescape text.toList
  let pieces ← readPieces (marks.length + 1) marks
  if hasEarlyRest pieces then .error .restNotLast
  else return ⟨text, pieces⟩

/-- The template of a text. -/
def ofText (text : String) : Except TemplateDefect Template := do
  checkText text
  ofChecked text

/-- Whether a template has no parameters. -/
def isStatic (template : Template) : Bool :=
  template.pieces.all fun
    | .literal _ => true
    | _ => false

/-- Whether parts stand for a text. A parameter takes a whole segment or the end of one, and takes
at least one character. -/
def covers : List Piece → List Char → Bool
  | [], text => text.isEmpty
  | .literal c :: more, text =>
    match text with
    | d :: rest => c = d && covers more rest
    | [] => false
  | .parameter _ :: more, text =>
    text.head?.any (· ≠ '/') && covers more (text.dropWhile (· ≠ '/'))
  | .rest _ :: _, text => !text.isEmpty

/-- Whether a path is one that the template stands for. -/
def accepts (template : Template) (path : String) : Bool :=
  covers template.pieces path.toList

end Template
end Gatehouse.Router
