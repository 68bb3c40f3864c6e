import Scriptlet.Token.Class

/-!
# Scriptlet.Run.Error — the ways in which a run ends early
-/

namespace Scriptlet

/-- Why no answer came. -/
inductive InputFault where
  /-- There is no more input. -/
  | unavailable
  /-- The source of input failed in a way of its own. -/
  | failed (message : Text)
  deriving DecidableEq, Repr

/-- What a request for input brings. -/
abbrev Answer := Except InputFault Text

/-- Why a run stopped. -/
inductive RunError where
  | functionNotFound (name : Token)
  | callDepth (name : Token)
  | read (name : Token) (fault : InputFault)
  | canceled
  | unsupportedStatement
  | unsupportedExpression
  deriving DecidableEq, Repr

/-- The wording of an input failure. -/
def InputFault.message : InputFault → Text
  | unavailable => utf8 "no input available"
  | failed message => message

/-- The wording of a failure. -/
def RunError.message : RunError → Text
  | functionNotFound name => utf8 "function " ++ name ++ utf8 " not found"
  | callDepth name => name ++ utf8 ": call depth limit exceeded"
  | read name fault => utf8 "read " ++ name ++ utf8 ": " ++ fault.message
  | canceled => utf8 "context canceled"
  | unsupportedStatement => utf8 "unsupported statement <nil>"
  | unsupportedExpression => utf8 "unsupported expression <nil>"

end Scriptlet
