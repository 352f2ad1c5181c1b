import Gatehouse.Json.Value
import Gatehouse.Text.Quoted
import Gatehouse.Text.Shortest

/-!
Why a document is refused. A fault names its cause, the place where reading stopped and the members
that lead there; `Fault.message` is the wording.
-/
namespace Gatehouse.Json

/-- What stood in the document where something else was expected. -/
inductive Found where
  | null
  | bool (b : Bool)
  | number (n : Number)
  | text (s : String)
  | sequence
  | mapping

/-- Why reading stopped. The first group is about the text of the document, the second about a
well-formed document that does not have the expected shape. -/
inductive Cause where
  | endInValue
  | endInObject
  | endInList
  | endInString
  | expectedValue
  | expectedIdent
  | expectedColon
  | expectedListSeparator
  | expectedObjectSeparator
  | invalidNumber
  | numberOutOfRange
  | invalidEscape
  | loneSurrogate
  | unfinishedSurrogate
  | controlCharacter
  | invalidCodePoint
  | keyNotText
  | trailingComma
  | trailingCharacters
  | tooDeep
  | wrongType (found : Found) (expected : String)
  | wrongValue (found : Number) (expected : String)
  | duplicateField (name : String)
  | missingField (name : String)
  | unknownVariant (name : String) (known : List String)
  | wrongLength (length : Nat) (expected : String)
  | custom (message : String)

/-- The three kinds of causes: the text ends early, the text is malformed, the shape is wrong. -/
inductive Category where
  | endOfInput
  | grammar
  | data
  deriving DecidableEq

def Cause.category : Cause → Category
  | .endInValue | .endInObject | .endInList | .endInString => .endOfInput
  | .wrongType .. | .wrongValue .. | .duplicateField _ | .missingField _ | .unknownVariant ..
  | .wrongLength .. | .custom _ => .data
  | _ => .grammar

/-- The text of a number in a diagnostic. -/
def Number.describe : Number → String
  | .unsigned n => "integer \x60" ++ Numeral.decimal n ++ "\x60"
  | .negative n => "integer \x60" ++ Numeral.signed n ++ "\x60"
  | .floating x => "floating point \x60" ++ Shortest.ofFloat x ++ "\x60"

def Found.describe : Found → String
  | .null => "null"
  | .bool b => "boolean \x60" ++ (if b then "true" else "false") ++ "\x60"
  | .number n => n.describe
  | .text s => "string " ++ Quoted.quote s
  | .sequence => "sequence"
  | .mapping => "map"

/-- The allowed names of a choice: one alone, two with "or", more as a list. -/
def describeKnown (known : List String) : String :=
  match known.map fun name => "\x60" ++ name ++ "\x60" with
  | [] => "there are no variants"
  | [one] => "expected " ++ one
  | [one, two] => "expected " ++ one ++ " or " ++ two
  | names => "expected one of " ++ ", ".intercalate names

def Cause.message : Cause → String
  | .endInValue => "EOF while parsing a value"
  | .endInObject => "EOF while parsing an object"
  | .endInList => "EOF while parsing a list"
  | .endInString => "EOF while parsing a string"
  | .expectedValue => "expected value"
  | .expectedIdent => "expected ident"
  | .expectedColon => "expected \x60:\x60"
  | .expectedListSeparator => "expected \x60,\x60 or \x60]\x60"
  | .expectedObjectSeparator => "expected \x60,\x60 or \x60\x7d\x60"
  | .invalidNumber => "invalid number"
  | .numberOutOfRange => "number out of range"
  | .invalidEscape => "invalid escape"
  | .loneSurrogate => "lone leading surrogate in hex escape"
  | .unfinishedSurrogate => "unexpected end of hex escape"
  | .controlCharacter => "control character (\\u0000-\\u001F) found while parsing a string"
  | .invalidCodePoint => "invalid unicode code point"
  | .keyNotText => "key must be a string"
  | .trailingComma => "trailing comma"
  | .trailingCharacters => "trailing characters"
  | .tooDeep => "recursion limit exceeded"
  | .wrongType found expected => "invalid type: " ++ found.describe ++ ", expected " ++ expected
  | .wrongValue found expected => "invalid value: " ++ found.describe ++ ", expected " ++ expected
  | .duplicateField name => "duplicate field \x60" ++ name ++ "\x60"
  | .missingField name => "missing field \x60" ++ name ++ "\x60"
  | .unknownVariant name known => "unknown variant \x60" ++ name ++ "\x60, " ++ describeKnown known
  | .wrongLength length expected =>
    "invalid length " ++ Numeral.decimal length ++ ", expected " ++ expected
  | .custom message => message

/-- One step from a document into a part of it. -/
inductive Segment where
  | member (name : String)
  | item (index : Nat)

/-- The path from the document to the faulty part, with a dot before every member but the first. -/
def pathText : List Segment → String
  | [] => ""
  | .member name :: rest => name ++ pathRest rest
  | .item index :: rest => "[" ++ Numeral.decimal index ++ "]" ++ pathRest rest
where
  pathRest : List Segment → String
    | [] => ""
    | .member name :: rest => "." ++ name ++ pathRest rest
    | .item index :: rest => "[" ++ Numeral.decimal index ++ "]" ++ pathRest rest

/-- A refusal with the line (from one) and the column (bytes read on that line) where reading
stopped. -/
structure Fault where
  cause : Cause
  line : Nat
  column : Nat
  path : List Segment

/-- The wording of a refusal, without the path. -/
def Fault.message (fault : Fault) : String :=
  fault.cause.message ++ " at line " ++ Numeral.decimal fault.line ++
    " column " ++ Numeral.decimal fault.column

/-- The wording with the path in front, where there is one. -/
def Fault.messageWithPath (fault : Fault) : String :=
  match fault.path with
  | [] => fault.message
  | path => pathText path ++ ": " ++ fault.message

end Gatehouse.Json
