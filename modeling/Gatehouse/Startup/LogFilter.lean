import Gatehouse.Event
import Gatehouse.Text.Blank
import Gatehouse.Text.Numeral

/-!
Which log events are shown. A filter is a list of directives; of those that care about an event the
most specific one decides. A directive may name a target, spans and fields; as no event here happens
in a span, one that asks for a span shows nothing.
-/
namespace Gatehouse

/-- An event and the part of the program that logs it. -/
structure LogLine where
  target : String
  event : Event
  deriving DecidableEq, Repr

/-- The line as it is shown. -/
def LogLine.text (line : LogLine) : String :=
  line.event.level.label ++ " " ++ line.target ++ ": " ++ line.event.message ++
    String.join (line.event.fields.map fun (name, value) => " " ++ name ++ "=" ++ value)

namespace LogFilter

/-- A directive. Events of a rank above `rank` are hidden; rank zero hides all. -/
structure Directive where
  target : Option String
  span : Option String
  field : Option String
  /-- Whether the field is asked for with a value, which only spans can have. -/
  asksValue : Bool
  rank : Nat
  deriving DecidableEq, Repr

/-- Levels by their names, in lower case. -/
def levels : List (String × Nat) :=
  [("off", 0), ("error", Level.error.rank), ("warn", Level.warn.rank), ("info", Level.info.rank),
    ("debug", Level.debug.rank), ("trace", Level.trace.rank)]

/-- The largest number of a machine word. -/
def wordEnd : Nat := 18446744073709551615

/-- A level: a number from zero to five, or a name in any case. -/
def level? (text : List Char) : Option Nat :=
  match Numeral.unsigned? wordEnd text with
  | some n => if n ≤ Level.trace.rank then some n else none
  | none => levels.lookup (String.ofList (text.map Char.toLower))

/-- A level behind an equals sign; none at all shows everything. -/
def levelOrAll? (text : List Char) : Option Nat :=
  if text.isEmpty then some Level.trace.rank else level? text

/-- Whether a character may start a directive. -/
def isStart (c : Char) : Bool :=
  c = '-' || c = ':' || c = '_' || c.isAlphanum || 0x80 ≤ c.toNat

/-- A part of a text, from one place up to another. -/
def slice (text : List Char) (start stop : Nat) : String :=
  String.ofList ((text.drop start).take (stop - start))

/-- The place of the first of some characters at or behind a place. -/
def find? (stops : List Char) (text : List Char) (start : Nat) : Option Nat :=
  ((text.drop start).findIdx? stops.contains).map (start + ·)

/-- What follows the brackets of a directive: nothing, or a level. -/
def levelBehind? (directive : Directive) (text inner : List Char) (place : Nat) :
    Option Directive :=
  match inner.drop place with
  | [] => some directive
  | '=' :: _ => (levelOrAll? (text.drop (place + 1))).map fun rank => { directive with rank }
  | _ => none

/-- The brackets of a directive from behind the opening one on: a span, or a field in braces, or
both. -/
def brackets? (target : Option String) (text inner : List Char) (start : Nat) :
    Option Directive := do
  let all := Level.trace.rank
  let stop ← find? [']', '{'] inner start
  let span := slice text start stop
  if inner[stop]? = some ']' then
    levelBehind? ⟨target, some span, none, false, all⟩ text inner (stop + 1)
  else
    let close ← find? ['}'] inner (stop + 1)
    let field := slice text (stop + 1) close
    if field.isEmpty || inner[close + 1]? ≠ some ']' then none
    else
      let name := String.ofList (field.toList.takeWhile (· ≠ '='))
      let span := if span.isEmpty then none else some span
      levelBehind? ⟨target, span, some name, field.toList.contains '=', all⟩ text inner (close + 2)

/-- One directive: a level, a target, or a target with a level or brackets. A word that is no level
is a target of which everything is shown. Places are counted without the blanks in front, yet the
parts are taken with them; so blanks in front become part of a target and spoil a level. -/
def directive? (text : List Char) : Option Directive := do
  let inner := Blank.trimWhere Blank.isBlank text
  let first ← inner.head?
  if first = '[' then brackets? none text inner 1
  else if !isStart first then none
  else
    match find? ['=', '['] inner 0 with
    | none =>
      match level? text with
      | some rank => return ⟨none, none, none, false, rank⟩
      | none => return ⟨some (String.ofList text), none, none, false, Level.trace.rank⟩
    | some stop =>
      let target := some (slice text 0 stop)
      if inner[stop]? = some '[' then brackets? target text inner (stop + 1)
      else return ⟨target, none, none, false, ← levelOrAll? (text.drop (stop + 1))⟩

/-- The directives of a filter; empty parts are passed over. -/
def ofText? (text : String) : Option (List Directive) :=
  ((text.splitOn ",").filter (· ≠ "")).mapM fun part => directive? part.toList

/-- Whether a directive can decide about events outside of spans. -/
def Directive.isStatic (directive : Directive) : Bool :=
  directive.span.isNone && !directive.asksValue

/-- Whether a directive cares about an event. -/
def Directive.cares (directive : Directive) (line : LogLine) : Bool :=
  (directive.target.all fun target => line.target.startsWith target) &&
    directive.field.all fun name => line.event.allFields.any (·.1 == name)

/-- Whether a directive decides rather than an earlier one: the longer target does, then the one
with a field, then the one whose field comes later in the order of texts; of equals the later one
does. -/
def Directive.outweighs (directive earlier : Directive) : Bool :=
  let length (d : Directive) : Nat := (d.target.map (·.utf8ByteSize + 1)).getD 0
  length earlier < length directive ||
    (length earlier = length directive &&
      match earlier.field, directive.field with
      | none, _ => true
      | some _, none => false
      | some a, some b => decide (a ≤ b))

/-- Whether a line is shown. -/
def shows (directives : List Directive) (line : LogLine) : Bool :=
  let caring := directives.filter fun d => d.isStatic && d.cares line
  let deciding := caring.foldl (fun best d =>
    match best with
    | none => some d
    | some earlier => if d.outweighs earlier then some d else some earlier)
    (none : Option Directive)
  deciding.any fun d => line.event.level.rank ≤ d.rank

/-- The filter of texts in order of precedence: the first that can be read, or else all from `info`
up. A filter without directives shows errors alone. -/
def choose (texts : List (Option String)) : List Directive :=
  let usable := texts.filterMap fun text => text.bind ofText?
  match usable with
  | [] => [⟨none, none, none, false, Level.info.rank⟩]
  | [] :: _ => [⟨none, none, none, false, Level.error.rank⟩]
  | directives :: _ => directives

end LogFilter
end Gatehouse
