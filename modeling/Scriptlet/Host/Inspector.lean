import Scriptlet.Host.Script
import Scriptlet.Syntax.Outline

/-!
# Scriptlet.Host.Inspector — a command that shows the outline of a script
-/

namespace Scriptlet

namespace Inspector

def usage : Text := utf8 "usage: go run ./cmd/debug_ast <script>\n"

/-- The end of a command that cannot go on. -/
def abort (message : Text) : CommandResult := ⟨2, [], utf8 "panic: " ++ message⟩

/-- The size of a script and its outline. -/
def summary (tokens : List Token) (program : Program) : Text :=
  utf8 "tokens=" ++ Text.ofNat tokens.length ++ utf8 " stmts=" ++ Text.ofNat program.length ++
    utf8 "\n" ++ program.outline

/-- Run the command. -/
def run (files : FileSystem) (args : List Text) : CommandResult :=
  match args with
  | [path] =>
    match files path with
    | .error fault => abort (fault.message path)
    | .ok source =>
      match tokenize source with
      | .error fault => abort fault.message
      | .ok tokens =>
        match parse tokens with
        | .error error => ⟨1, [], error.message ++ utf8 "\n"⟩
        | .ok program => ⟨0, summary tokens program, []⟩
  | _ => ⟨2, [], usage⟩

end Inspector

end Scriptlet
