import Scriptlet.Text.Quote

/-!
# Scriptlet.Json.Encode — JSON strings and the texts they stand for

Characters with a meaning in web pages are escaped as well, so that the result can be put into one.
-/

namespace Scriptlet

namespace Json

/-- How a character is written inside a JSON string. -/
def escape (c : Char) : List Char :=
  let n := c.toNat
  if c = '"' then ['\\', '"']
  else if c = '\\' then ['\\', '\\']
  else if n = 0x08 then ['\\', 'b']
  else if n = 0x09 then ['\\', 't']
  else if n = 0x0A then ['\\', 'n']
  else if n = 0x0C then ['\\', 'f']
  else if n = 0x0D then ['\\', 'r']
  else if n < 0x20 ∨ c ∈ ['<', '>', '&'] ∨ n = 0x2028 ∨ n = 0x2029 then
    '\\' :: 'u' :: hexDigits 4 n
  else [c]

/-- How a rune is written inside a JSON string; a stray byte becomes the replacement character. -/
def escapeRune : Rune → List Char
  | .scalar c => escape c
  | .stray _ => '\\' :: 'u' :: hexDigits 4 0xFFFD

/-- The JSON string for a text. -/
def string (t : Text) : Text :=
  utf8 "\"" ++ Text.ofChars (t.runes.flatMap escapeRune) ++ utf8 "\""

/-- The JSON array of encoded items. -/
def array (items : List Text) : Text := utf8 "[" ++ Text.join (utf8 ",") items ++ utf8 "]"

/-- The JSON object of encoded members, in order. -/
def object (members : List (String × Text)) : Text :=
  utf8 "\x7b" ++
    Text.join (utf8 ",") (members.map fun (k, v) => string (utf8 k) ++ utf8 ":" ++ v) ++
    utf8 "\x7d"

end Json

end Scriptlet
