import Scriptlet.Host.Script

/-!
# Scriptlet.Host.Plain — runs on plain text streams

Lines of output and prompts go to one stream, and every request takes a line from another.
-/

namespace Scriptlet

/-- What is left of an input stream: bytes, after which it either ends or fails. -/
structure InputStream where
  data : Text
  failure : Option Text
  deriving DecidableEq, Repr

namespace InputStream

/-- A line without the carriage returns at its end. -/
def chomp (line : Text) : Text := (line.reverse.dropWhile (· == 0x0D)).reverse

/-- The next line.  The last one need not end in a line feed, but it counts only if the stream ends
after it. -/
def readLine (s : InputStream) : Answer × InputStream :=
  let line := s.data.takeWhile (· != 0x0A)
  match s.data.dropWhile (· != 0x0A) with
  | _ :: rest => (.ok (chomp line), { s with data := rest })
  | [] =>
    let s' := { s with data := [] }
    match s.failure with
    | some message => (.error (.failed message), s')
    | none => if line = [] then (.error .unavailable, s') else (.ok (chomp line), s')

end InputStream

namespace Plain

/-- Hold a dialogue over streams: the result and what was written, unless the run was cut.
`cancelled` says whether it is cancelled from the start. -/
def converse {ρ : Type} (prompt : Text) (cancelled : Bool) :
    Dialogue ρ → InputStream → Array UInt8 → Option (ρ × Array UInt8)
  | .done result, _, out => some (result, out)
  | .say text next, s, out => converse prompt cancelled next s (out.appendList text |>.push 0x0A)
  | .ask name next, s, out =>
    let (answer, s') := s.readLine
    converse prompt cancelled (next answer) s' (out.appendList (Prompt.expand prompt name))
  | .poll next, s, out => converse prompt cancelled (next cancelled) s out
  | .cut, _, _ => none

/-- The complaint about a script that did not run to its end. -/
def errorMessage : HostError → Text
  | .script e => e.message
  | .run e => utf8 "run: " ++ e.message

/-- What running a script on streams comes to. -/
structure Outcome where
  stdout : Text
  result : Except HostError Unit

/-- Run a script on streams, following it for a number of nested steps. -/
def run (script : Script) (stdin : InputStream) (cancelled : Bool) (n : Nat) : Option Outcome :=
  match script.program with
  | .error e => some ⟨[], .error (.script e)⟩
  | .ok program =>
    (converse (Prompt.template script.settings.prompt) cancelled
      (program.dialogue script.settings.returnMode n) stdin #[]).map fun (report, out) =>
        ⟨out.toList, report.result.mapError .run⟩

end Plain

end Scriptlet
