/-!
Tokens of the protocol: method and header names.
-/
namespace Gatehouse.HttpToken

/-- Whether a character may stand in a token. -/
def isTokenChar (c : Char) : Bool :=
  c.isAlphanum || "!#$%&\x27*+-.^_\x60|~".toList.contains c

/-- Whether a text is a token. -/
def isToken (text : String) : Bool :=
  !text.isEmpty && text.toList.all isTokenChar

end Gatehouse.HttpToken
