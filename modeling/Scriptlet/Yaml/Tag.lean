import Scriptlet.Text.Base64
import Scriptlet.Yaml.Timestamp

/-!
# Scriptlet.Yaml.Tag — the type that a scalar has by its looks or by its tag
-/

namespace Scriptlet.Yaml

/-- The tags that a scalar may have without one being written. -/
inductive Tag where
  | null
  | bool
  | int
  | float
  | timestamp
  | str
  | merge
  deriving DecidableEq, Repr

namespace Tag

def name : Tag → Text
  | null => utf8 "!!null"
  | bool => utf8 "!!bool"
  | int => utf8 "!!int"
  | float => utf8 "!!float"
  | timestamp => utf8 "!!timestamp"
  | str => utf8 "!!str"
  | merge => utf8 "!!merge"

/-- The tag of sequences. -/
def sequence : Text := utf8 "!!seq"

/-- The tag of mappings. -/
def mapping : Text := utf8 "!!map"

/-- The tag of scalars that are written in base 64. -/
def binary : Text := utf8 "!!binary"

/-- The start of the full names of the standard tags. -/
def standard : Text := utf8 "tag:yaml.org,2002:"

/-- The short name of a tag. -/
def short (name : Text) : Text :=
  if standard.isPrefixOf name then utf8 "!!" ++ name.drop standard.length else name

/-- Words with a type of their own. -/
def ofWord? (word : String) : Option Tag :=
  if word ∈ ["", "~", "null", "Null", "NULL"] then some null
  else if word ∈ ["true", "True", "TRUE", "false", "False", "FALSE"] then some bool
  else if word ∈ [".nan", ".NaN", ".NAN", ".inf", ".Inf", ".INF", "+.inf", "+.Inf", "+.INF",
      "-.inf", "-.Inf", "-.INF"] then some float
  else none

/-- The type of a scalar by its looks. -/
def ofLooks (cs : List Char) : Tag :=
  match ofWord? (String.ofList cs), cs with
  | some tag, _ => tag
  | none, [] => null
  | none, c :: _ =>
    let bare := cs.filter (· != '_')
    if c = '.' then if underscoresFit false cs && isFloat bare then float else str
    else if c.isDigit || c == '+' || c == '-' then
      if isTimestamp cs then timestamp
      else if isInt bare then int
      else if isFloat bare then float
      else str
    else str

/-- The tag of a plain scalar. -/
def ofPlain (cs : List Char) : Tag := if cs = "<<".toList then merge else ofLooks cs

/-- The tags of the types that a scalar may have by its looks. -/
def basic : List Text := [null.name, bool.name, int.name, float.name, timestamp.name]

/-- What a scalar is. -/
inductive Value where
  | null
  | text (t : Text)
  /-- A value of another type than text, which can be read as text. -/
  | typed (t : Text)
  deriving DecidableEq, Repr

/-- The value of a scalar with the given tag, if it can have one.  Its looks must agree with a tag
of one of the basic types, except that anything is a string and an integer is a number unless it
needs all of 64 bits; anything goes with another tag. -/
def value? (tag : Text) (cs : List Char) : Option Value :=
  let looks := ofLooks cs
  let isNumber := looks == int && !isWide (cs.filter (· != '_'))
  let written := Text.ofChars cs
  if tag = str.name then some (.text written)
  else if tag = binary then (Base64.decode? cs).map .text
  else if basic.contains tag then
    if tag == looks.name || (tag == float.name && isNumber) then
      some (if looks = null then .null else .typed written)
    else none
  else some (.text written)

end Tag

end Scriptlet.Yaml
