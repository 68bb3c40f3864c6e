import Scriptlet.Host.Plain
import Scriptlet.Settings.Decode

/-!
# Scriptlet.Host.CommandLine — the command that runs a script

Arguments are flags with a value each, and after them the script.  Settings come from the standard
ones, the settings file and the flags, each taking precedence over the one before.
-/

namespace Scriptlet

/-- The flags of the command. -/
inductive Flag where
  | config
  | mode
  | prompt
  | return
  deriving DecidableEq, Repr

namespace Flag

def name : Flag → String
  | .config => "config"
  | .mode => "mode"
  | .prompt => "prompt"
  | .return => "return"

/-- What a flag is for. -/
def description : Flag → String
  | .config => "optional YAML config file"
  | .mode => "frontend: auto|plain|tui (default auto)"
  | .prompt => "read prompt template, \x7bname\x7d is replaced by the variable"
  | .return => "return inside if/while/for: discard|propagate (default discard)"

/-- The flags in the order of their names. -/
def all : List Flag := [.config, .mode, .prompt, .return]

def ofName? (name : Text) : Option Flag := all.find? fun f => utf8 f.name == name

end Flag

namespace CommandLine

/-- Why the arguments make no sense. -/
inductive UsageError where
  /-- A wish for help, or a wrong number of scripts: only the usage is shown. -/
  | help
  | operands
  | badSyntax (arg : Text)
  | unknownFlag (name : Text)
  | missingValue (name : Text)
  deriving DecidableEq, Repr

/-- The complaint above the usage. -/
def UsageError.message? : UsageError → Option Text
  | help => none
  | operands => none
  | badSyntax arg => some (utf8 "bad flag syntax: " ++ arg)
  | unknownFlag name => some (utf8 "flag provided but not defined: -" ++ name)
  | missingValue name => some (utf8 "flag needs an argument: -" ++ name)

/-- How the command is used. -/
def usage : Text :=
  Text.unlines (utf8 "usage: flatscript [flags] <script>" :: Flag.all.flatMap fun f =>
    [utf8 "  -" ++ utf8 f.name ++ utf8 " string", utf8 "    \t" ++ utf8 f.description])

/-- The flags given, the last one first, and the other arguments. -/
structure Arguments where
  flags : List (Flag × Text)
  operands : List Text
  deriving DecidableEq, Repr

/-- The value of a flag: that given last, and the empty text if there is none. -/
def Arguments.value (a : Arguments) (f : Flag) : Text := (a.flags.lookup f).getD []

/-- The part of an argument before its first equals sign, and the part after it.  The first byte
does not count. -/
def splitValue (arg : Text) : Text × Option Text :=
  let tail := arg.drop 1
  let name := arg.take 1 ++ tail.takeWhile (· != 0x3D)
  match tail.dropWhile (· != 0x3D) with
  | [] => (name, none)
  | _ :: value => (name, some value)

/-- What an argument is: a flag with one or two dashes, without them; the end of the flags; or the
first of the other arguments. -/
inductive Shape where
  | flag (text : Text)
  | terminator
  | operand
  deriving DecidableEq, Repr

def shape (arg : Text) : Shape :=
  match arg with
  | 0x2D :: 0x2D :: [] => .terminator
  | 0x2D :: 0x2D :: b :: text => .flag (b :: text)
  | 0x2D :: b :: text => .flag (b :: text)
  | _ => .operand

/-- Read the arguments after some flags. -/
def readFrom (flags : List (Flag × Text)) : List Text → Except UsageError Arguments
  | [] => .ok ⟨flags, []⟩
  | arg :: args =>
    match shape arg with
    | .operand => .ok ⟨flags, arg :: args⟩
    | .terminator => .ok ⟨flags, args⟩
    | .flag text =>
      if text.head? = some 0x2D ∨ text.head? = some 0x3D then .error (.badSyntax arg)
      else
        let (name, value) := splitValue text
        match Flag.ofName? name with
        | none =>
          if name = utf8 "help" ∨ name = utf8 "h" then .error .help else .error (.unknownFlag name)
        | some f =>
          match value with
          | some v => readFrom ((f, v) :: flags) args
          | none =>
            match args with
            | v :: args' => readFrom ((f, v) :: flags) args'
            | [] => .error (.missingValue name)

/-- Read the arguments: the flags and the one script. -/
def read (args : List Text) : Except UsageError (Arguments × Text) := do
  let a ← readFrom [] args
  match a.operands with
  | [path] => return (a, path)
  | _ => throw .operands

/-- The settings for a run.  A flag with an empty value says nothing. -/
def settings (files : FileSystem) (a : Arguments) : Except SettingsError Settings := do
  let config := a.value .config
  let s ← if config = [] then pure Settings.standard
    else Settings.load files config
  let mode := a.value .mode
  let s ← if mode = [] then pure s else (s.setFrontEnd mode).mapError .setting
  let returnMode := a.value .return
  let s ← if returnMode = [] then pure s else (s.setReturnMode returnMode).mapError .setting
  let prompt := a.value .prompt
  return if prompt = [] then s else { s with prompt }

/-- The end of a command whose arguments make no sense. -/
def refuse (e : UsageError) : CommandResult :=
  let complaint := match e.message? with
    | some message => message ++ utf8 "\n"
    | none => []
  ⟨if e = .help then 0 else 2, [], complaint ++ usage⟩

/-- The end of a command that failed. -/
def fail (stdout message : Text) : CommandResult :=
  ⟨1, stdout, utf8 "error: " ++ message ++ utf8 "\n"⟩

/-- The files that the command reads. -/
def paths (args : List Text) : List Text :=
  match read args with
  | .error _ => []
  | .ok (a, path) => [a.value .config, path]

/-- The script that the arguments name, with its settings, or how the command ends without one.  The
full-screen front end needs a terminal, which the command does not have. -/
def script (files : FileSystem) (args : List Text) : Except CommandResult Script :=
  match read args with
  | .error e => .error (refuse e)
  | .ok (a, path) =>
    match settings files a with
    | .error e => .error (fail [] e.message)
    | .ok settings =>
      if settings.frontEnd = .tui then .error (fail [] (utf8 "tui: no terminal"))
      else .ok ⟨path, files path, settings⟩

/-- How the command ends after a run on streams. -/
def conclude (o : Plain.Outcome) : CommandResult :=
  match o.result with
  | .ok () => ⟨0, o.stdout, []⟩
  | .error e => fail o.stdout (Plain.errorMessage e)

/-- Run the command, following the script for a number of nested steps. -/
def run (files : FileSystem) (args : List Text) (stdin : Text) (n : Nat) : Option CommandResult :=
  match script files args with
  | .error result => some result
  | .ok s => (Plain.run s ⟨stdin, none⟩ false n).map conclude

end CommandLine

end Scriptlet
