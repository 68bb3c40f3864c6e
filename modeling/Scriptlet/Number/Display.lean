import Scriptlet.Number.Binary64
import Scriptlet.Number.Shortest
import Scriptlet.Text.Basic

/-!
# Scriptlet.Number.Display — how a number is written

A finite number is written as its shortest decimal, never with an exponent; a zero keeps its sign.
-/

namespace Scriptlet

/-- The text of a number taken apart. -/
def Binary64.display : Binary64 → Text
  | .nan => utf8 "NaN"
  | .infinite negative => if negative then utf8 "-Inf" else utf8 "+Inf"
  | .finite negative significand exponent =>
    (if negative then utf8 "-" else []) ++
      if significand = 0 then utf8 "0"
      else Text.ofChars (shortestDecimal significand exponent).positional

end Scriptlet
