import Scriptlet.Token.Class

/-!
# Scriptlet.Run.Prompt — the text that asks for a value
-/

namespace Scriptlet

namespace Prompt

/-- The place of the variable's name in a prompt template. -/
def placeholder : Text := utf8 "\x7bname\x7d"

/-- The template used when none is set. -/
def standard : Text := utf8 "Enter the value of " ++ placeholder ++ utf8 ": "

/-- The template that a setting stands for: the standard one if the setting is empty. -/
def template (setting : Text) : Text := if setting = [] then standard else setting

/-- The prompt for a variable. -/
def expand (template : Text) (name : Token) : Text := Text.replace placeholder name template

end Prompt

end Scriptlet
