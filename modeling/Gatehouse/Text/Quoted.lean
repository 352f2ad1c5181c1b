import Gatehouse.Text.Numeral
import Gatehouse.Text.Printable

/-!
Quoted text, as diagnostics show it: double quotes around the characters, a backslash before quotes,
backslashes and the usual controls, and every other character without a visible form by its number
in braces.
-/
namespace Gatehouse.Quoted

/-- One character between the quotes. -/
def escape (c : Char) : String :=
  if c = '\x00' then "\\0"
  else if c = '\t' then "\\t"
  else if c = '\n' then "\\n"
  else if c = '\r' then "\\r"
  else if c = '"' then "\\\""
  else if c = '\\' then "\\\\"
  else if Printable.isPrintable c then c.toString
  else "\\u\x7b" ++ Numeral.hex c.toNat ++ "\x7d"

/-- A whole text with its quotes. -/
def quote (text : String) : String :=
  "\"" ++ String.join (text.toList.map escape) ++ "\""

end Gatehouse.Quoted
