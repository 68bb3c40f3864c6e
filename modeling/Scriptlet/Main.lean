import Scriptlet.Host.CommandLine

/-!
# Scriptlet.Main — the command on real streams

The command holds the dialogue of a script with standard input and output.  What it says and how it
ends is decided by `Scriptlet.CommandLine`.
-/

namespace Scriptlet

namespace Main

/-- The number of nested steps for which a script is followed: more than a machine can take. -/
def depth : Nat := 0x4000000000000000

/-- Write a text. -/
def put (stream : IO.FS.Stream) (t : Text) : IO Unit := do
  stream.write (ByteArray.mk t.toArray)
  stream.flush

/-- Read a file. -/
def readFile (path : Text) : IO (Except FileFault Text) := do
  match String.fromUTF8? (ByteArray.mk path.toArray) with
  | none => return .error .missing
  | some name =>
    try return .ok (← IO.FS.readBinFile name).data.toList
    catch
      | .inappropriateType .. => return .error .directory
      | _ => return .error .missing

/-- The files at some paths. -/
def gather : List Text → IO FileSystem
  | [] => return fun _ => .error .missing
  | path :: paths => do
    let content ← readFile path
    let rest ← gather paths
    return fun p => if p = path then content else rest p

/-- Read on until there is a whole line, or the input ends. -/
partial def fill (stdin : IO.FS.Stream) (s : InputStream) : IO InputStream := do
  if s.data.contains 0x0A then return s
  let more ← stdin.read 4096
  if more.isEmpty then return s
  fill stdin { s with data := s.data ++ more.data.toList }

/-- Hold a dialogue over standard input and output; nothing comes of it if the run was cut. -/
def converse {ρ : Type} (prompt : Text) (stdin stdout : IO.FS.Stream) :
    InputStream → Dialogue ρ → IO (Option ρ)
  | _, .done result => return some result
  | s, .say text next => do
    put stdout (text ++ [0x0A])
    converse prompt stdin stdout s next
  | s, .ask name next => do
    put stdout (Prompt.expand prompt name)
    let (answer, s) := (← fill stdin s).readLine
    converse prompt stdin stdout s (next answer)
  | s, .poll next => converse prompt stdin stdout s (next false)
  | _, .cut => return none

/-- Run a script. -/
def run (script : Script) (stdin stdout : IO.FS.Stream) : IO CommandResult := do
  match script.program with
  | .error e => return CommandLine.conclude ⟨[], .error (.script e)⟩
  | .ok program =>
    let report ← converse (Prompt.template script.settings.prompt) stdin stdout ⟨[], none⟩
      (program.dialogue script.settings.returnMode depth)
    match report with
    | none => return CommandLine.fail [] (utf8 "run: cut")
    | some report => return CommandLine.conclude ⟨[], report.result.mapError .run⟩

end Main

end Scriptlet

open Scriptlet in
/-- The command. -/
def main (args : List String) : IO UInt32 := do
  let args := args.map utf8
  let stdin ← IO.getStdin
  let stdout ← IO.getStdout
  let stderr ← IO.getStderr
  let result ← match CommandLine.script (← Main.gather (CommandLine.paths args)) args with
    | .error result => pure result
    | .ok script => Main.run script stdin stdout
  Main.put stdout result.stdout
  Main.put stderr result.stderr
  return result.exit.toUInt32
