import Scriptlet.Json.Encode
import Scriptlet.Json.Strings
import Scriptlet.Run.Session
import Scriptlet.Syntax.Parser
import Scriptlet.Token.Lexer

/-!
# Scriptlet.Host.Bridge — one run per call, answered in JSON

All answers are given in advance and are echoed.  The reply holds the lines of a run that succeeded,
or a complaint.
-/

namespace Scriptlet

/-- Why there are no lines. -/
inductive BridgeError where
  | noSource
  | invalidInputs
  | unknownReturnMode (raw : Text)
  | lexical (fault : LexicalFault)
  | grammar (error : SyntaxError)
  | run (error : RunError)
  deriving DecidableEq, Repr

/-- The complaint of a reply. -/
def BridgeError.message : BridgeError → Text
  | noSource => utf8 "no source provided"
  | invalidInputs => utf8 "invalid inputs json"
  | unknownReturnMode raw => ReturnMode.unknownMessage raw
  | lexical fault => utf8 "tokenize: " ++ fault.message
  | grammar error => utf8 "compile: " ++ error.message
  | run error => utf8 "runtime: " ++ error.message

namespace Bridge

/-- The answers written in JSON; a blank text holds none. -/
def inputs (json : Text) : Except BridgeError (List Text) :=
  if json.trim = [] then .ok []
  else match Json.texts? json with
    | some answers => .ok answers
    | none => .error .invalidInputs

/-- The session for a source, a JSON list of answers and the name of a return mode. -/
def session (source inputsJson returnMode : Text) : Except BridgeError Session := do
  if source.trim = [] then throw .noSource
  let answers ← inputs inputsJson
  let mode ← match ReturnMode.parse? returnMode with
    | some mode => pure mode
    | none => throw (.unknownReturnMode returnMode)
  let tokens ← (tokenize source).mapError .lexical
  let program ← (parse tokens).mapError .grammar
  return (((Session.new program).setReturnMode mode).setEcho true).enqueue answers

/-- The lines of a run, or why there are none. -/
def run (source inputsJson returnMode : Text) (n : Nat) :
    Option (Except BridgeError (List Output)) :=
  match session source inputsJson returnMode with
  | .error e => some (.error e)
  | .ok s => (s.run .never n).map fun (record, _) => record.returned.mapError .run

/-- A line as a JSON object. -/
def encodeOutput (o : Output) : Text :=
  Json.object (("text", Json.string o.text) :: if o.input then [("input", utf8 "true")] else [])

/-- A reply as JSON.  An empty list of lines is written as `null`. -/
def encode : Except BridgeError (List Output) → Text
  | .ok [] => Json.object [("outputs", utf8 "null")]
  | .ok outputs => Json.object [("outputs", Json.array (outputs.map encodeOutput))]
  | .error e => Json.object [("outputs", utf8 "null"), ("error", Json.string e.message)]

end Bridge

end Scriptlet
