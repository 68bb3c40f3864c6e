import Scriptlet.Host.Files
import Scriptlet.Settings.Basic
import Scriptlet.Syntax.Parser
import Scriptlet.Token.Lexer

/-!
# Scriptlet.Host.Script — scripts in files
-/

namespace Scriptlet

/-- A script: where it is, what is there, and how to run it. -/
structure Script where
  path : Text
  /-- The content of the file, if it can be read. -/
  source : Except FileFault Text
  settings : Settings

/-- Why a script cannot be run. -/
inductive ScriptError where
  | unreadable (path : Text) (fault : FileFault)
  | lexical (path : Text) (fault : LexicalFault)
  | grammar (error : SyntaxError)
  deriving DecidableEq, Repr

/-- The complaint about a script. -/
def ScriptError.message : ScriptError → Text
  | unreadable path fault => utf8 "load script: " ++ fault.message path
  | lexical path fault => utf8 "load script: " ++ path ++ utf8 ": " ++ fault.message
  | grammar error => utf8 "compile: " ++ error.message

/-- The program of a script. -/
def Script.program (s : Script) : Except ScriptError Program :=
  match s.source with
  | .error fault => .error (.unreadable s.path fault)
  | .ok source =>
    match tokenize source with
    | .error fault => .error (.lexical s.path fault)
    | .ok tokens =>
      match parse tokens with
      | .error error => .error (.grammar error)
      | .ok program => .ok program

/-- Why a script did not run to its end. -/
inductive HostError where
  | script (error : ScriptError)
  | run (error : RunError)
  deriving DecidableEq, Repr

end Scriptlet
