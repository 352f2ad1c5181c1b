import Gatehouse.Config.Application
import Gatehouse.Text.Blank
import Gatehouse.Text.Utf8

/-!
Files of variables: lines `name=value`, with comments, two kinds of quotes, backslashes, and values
of other variables put in behind a dollar sign. A quoted value may span lines. Reading stops at the
first line that is wrong; what stands before it counts.
-/
namespace Gatehouse.EnvFile

/-! ## Lines -/

/-- What stands at some place of a line, as far as it decides where the entry ends. -/
inductive Place where
  | plain
  | blank
  | escaped
  | strong
  | strongEscaped
  | weak
  | weakEscaped
  deriving DecidableEq, Repr

/-- The place behind one more character. A sign `#` behind a blank starts a comment, which is
`none`. -/
def Place.next (place : Place) (c : Char) : Option Place :=
  match place with
  | .blank =>
    if c = '#' then none
    else if c = '\\' then some .escaped
    else if c = '"' then some .weak
    else if c = '\'' then some .strong
    else some .plain
  | .escaped => some .plain
  | .plain =>
    if Blank.isBlank c && c ≠ '\n' && c ≠ '\r' then some .blank
    else if c = '\\' then some .escaped
    else if c = '"' then some .weak
    else if c = '\'' then some .strong
    else some .plain
  | .weak => some (if c = '\\' then .weakEscaped else if c = '"' then .plain else .weak)
  | .weakEscaped => some .weak
  | .strong => some (if c = '\\' then .strongEscaped else if c = '\'' then .plain else .strong)
  | .strongEscaped => some .strong

/-- The place at the end of a line, or the part of the line before a comment. -/
def walk : Place → List Char → List Char → Place ⊕ List Char
  | place, _, [] => .inl place
  | place, passed, c :: rest =>
    match place.next c with
    | some place => walk place (c :: passed) rest
    | none => .inr passed.reverse

/-- A line without the line end behind it. -/
def withoutEnd (line : List Char) : List Char :=
  match line.reverse with
  | '\n' :: '\r' :: front => front.reverse
  | '\n' :: front => front.reverse
  | _ => line

/-- Whether a line holds a comment and nothing else. -/
def isComment (line : List Char) : Bool :=
  (line.dropWhile Blank.isBlank).head? = some '#'

/-- Joins the lines of a file to entries. An entry that never ends, and a line that is no text, are
wrong, which is `none`. -/
def entries : Place → List Char → List (Option String) → List (Option (List Char))
  | .plain, _, [] => []
  | _, _, [] => [none]
  | _, _, none :: _ => [none]
  | place, pending, some line :: rest =>
    let whole := pending ++ line.toList
    if isComment whole then entries .plain [] rest
    else
      match walk place [] line.toList with
      | .inr before => some (pending ++ before) :: entries .plain [] rest
      | .inl .plain => some (withoutEnd whole) :: entries .plain [] rest
      | .inl place => entries place whole rest

/-- The lines of a file, each with its line end. A byte order mark in front is passed over. -/
def lines (file : Bytes) : List (Option String) :=
  let file := if file.take 3 = [0xEF, 0xBB, 0xBF] then file.drop 3 else file
  let (last, done) := file.foldr (fun b (line, done) =>
      if b = 0x0A then ([b], line :: done) else (b :: line, done)) (([] : Bytes), ([] : List Bytes))
  ((last :: done).filter (!·.isEmpty)).map Utf8.decode?

/-! ## Values -/

/-- Where reading a value stands. -/
inductive Mode where
  | plain
  | escaped
  | strong
  | ending
  | name (read : List Char)
  | braced (read : List Char)
  deriving DecidableEq, Repr

/-- A value on the way. The output holds the characters so far, the last one first; `weak` tells
whether weak quotes are open. -/
structure Reading where
  mode : Mode
  weak : Bool
  output : List Char
  deriving DecidableEq, Repr

namespace Reading

def push (reading : Reading) (c : Char) : Reading :=
  { reading with mode := .plain, output := c :: reading.output }

/-- Puts in the value of a variable; one that is not set is empty. -/
def putIn (env : Environment) (reading : Reading) (name : List Char) : Reading :=
  let value := (env.lookup (String.ofList name.reverse)).getD ""
  { reading with mode := .plain, output := value.toList.reverse ++ reading.output }

/-- Whether a character goes on with a name that no braces enclose. -/
def isNameChar (c : Char) : Bool := c.isAlphanum

/-- One more character; a wrong one is `none`. -/
def next (env : Environment) (reading : Reading) (c : Char) : Option Reading :=
  match reading.mode with
  | .ending => if c = ' ' || c = '\t' then some reading else none
  | .escaped =>
    if "\\\x27\"$ ".toList.contains c then some (reading.push c)
    else if c = 'n' then some (reading.push '\n')
    else none
  | .strong =>
    if c = '\'' then some { reading with mode := .plain }
    else some { reading with output := c :: reading.output }
  | .name read =>
    if isNameChar c then some { reading with mode := .name (c :: read) }
    else if c = '{' && read.isEmpty then some { reading with mode := .braced [] }
    else if c = '$' then some { reading.putIn env read with mode := .name [] }
    else some ((reading.putIn env read).push c)
  | .braced read =>
    if c = '}' then some (reading.putIn env read)
    else some { reading with mode := .braced (c :: read) }
  | .plain =>
    if c = '$' then some { reading with mode := .name [] }
    else if reading.weak then
      if c = '"' then some { reading with weak := false }
      else if c = '\\' then some { reading with mode := .escaped }
      else some (reading.push c)
    else if c = '\'' then some { reading with mode := .strong }
    else if c = '"' then some { reading with weak := true }
    else if c = '\\' then some { reading with mode := .escaped }
    else if c = ' ' || c = '\t' then some { reading with mode := .ending }
    else some (reading.push c)

/-- The value at the end. Open quotes and braces are wrong. -/
def finish (env : Environment) (reading : Reading) : Option String :=
  let text (r : Reading) : String := String.ofList r.output.reverse
  if reading.weak then none
  else
    match reading.mode with
    | .strong | .braced _ => none
    | .name read => some (text (reading.putIn env read))
    | _ => some (text reading)

/-- Reads to the end, or to a comment behind the value. -/
def run (env : Environment) : Reading → List Char → Option String
  | reading, [] => reading.finish env
  | reading, c :: rest =>
    if reading.mode = .ending && c = '#' then reading.finish env
    else (reading.next env c).bind (run env · rest)

end Reading

/-- Reads a value. -/
def value (env : Environment) (text : List Char) : Option String :=
  Reading.run env ⟨.plain, false, []⟩ text

/-! ## Entries -/

/-- A name, and what follows it. -/
def key (text : List Char) : Option (List Char × List Char) :=
  match text with
  | first :: _ =>
    if first.isAlpha || first = '_' then
      let isKeyChar (c : Char) : Bool := c.isAlphanum || c = '_' || c = '.'
      some (text.takeWhile isKeyChar, text.dropWhile isKeyChar)
    else none
  | [] => none

/-- What follows an equals sign and the blanks around it. -/
def behindEquals (text : List Char) : Option (List Char) :=
  match text.dropWhile Blank.isBlank with
  | '=' :: rest => some (rest.dropWhile Blank.isBlank)
  | _ => none

/-- The name that an entry assigns to, and what follows the equals sign. The word `export` may stand
in front of a name, or be the name. -/
def assigned (text : List Char) : Option (String × List Char) := do
  let (name, rest) ← key text
  match behindEquals rest with
  | some rest => return (String.ofList name, rest)
  | none =>
    if name = "export".toList then
      let (name, rest) ← key (rest.dropWhile Blank.isBlank)
      return (String.ofList name, ← behindEquals rest)
    else none

/-- What an entry holds. -/
inductive Entry where
  | nothing
  | variable (name value : String)
  deriving DecidableEq, Repr

/-- Reads an entry. -/
def entry (env : Environment) (line : List Char) : Option Entry :=
  match Blank.trimWhere Blank.isBlank line with
  | [] => some .nothing
  | '#' :: _ => some .nothing
  | text => do
    let (name, rest) ← assigned text
    match rest with
    | [] => return .variable name ""
    | '#' :: _ => return .variable name ""
    | text => return .variable name (← value env text)

/-- Adds the variables of entries, up to the first one that is wrong. A variable that is set already
stays as it is. -/
def addEntries : List (Option (List Char)) → Environment → Environment
  | some line :: rest, env =>
    match entry env line with
    | some (.variable name text) =>
      addEntries rest (if (env.lookup name).isSome then env else env ++ [(name, text)])
    | some .nothing => addEntries rest env
    | none => env
  | none :: _, env => env
  | [], env => env

/-- The environment with the variables of a file added to it. -/
def load (file : Bytes) (env : Environment) : Environment :=
  addEntries (entries .plain [] (lines file)) env

end Gatehouse.EnvFile
