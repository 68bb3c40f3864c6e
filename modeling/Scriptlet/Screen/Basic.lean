import Scriptlet.Run.Console
import Scriptlet.Screen.TextField
import Scriptlet.Screen.Viewport

/-!
# Scriptlet.Screen.Basic — a terminal screen that follows a run

The screen shows the output of one run at a time and takes answers to its requests from a text
field.  It reacts to messages, one after the other: `Screen.update` says how the screen changes,
what it does at once (`Effect`), and what it wants done next (`Command`), whose outcome comes back
as another message.
-/

namespace Scriptlet

/-- Runs are numbered in the order of their starts. -/
abbrev RunId := Nat

/-- Who waits for the answer to a request. -/
inductive Asker where
  | run (id : RunId)
  /-- Somebody other than a run. -/
  | guest
  deriving DecidableEq, Repr

/-- A request that waits for its answer. -/
structure Pending where
  request : Request
  asker : Asker

/-- What the screen says it is doing. -/
inductive Status where
  | starting
  | running
  | reading (name : Token)
  | done
  | failed
  | restarting
  deriving DecidableEq, Repr

/-- The word for a status. -/
def Status.label : Status → Text
  | starting => utf8 "starting"
  | running => utf8 "running"
  | reading name => utf8 "read " ++ name
  | done => utf8 "done"
  | failed => utf8 "failed"
  | restarting => utf8 "restarting"

/-- What the screen reacts to. -/
inductive Message where
  | resize (width height : Nat)
  /-- A run began; without an identity there is nothing to follow. -/
  | started (run : Option RunId)
  | output (text : Text)
  | request (request : Request) (asker : Asker)
  | done (failure : Option Text)
  | key (key : Key)

/-- What a reaction does at once. -/
inductive Effect where
  | answer (asker : Asker) (text : Text)
  | cancel (run : RunId)
  deriving DecidableEq, Repr

/-- What is to be done after a reaction. -/
inductive Command where
  /-- Start a run and report that it began. -/
  | start
  /-- Wait for the next event of a run and report it. -/
  | await (run : RunId)
  /-- Close the screen. -/
  | quit
  deriving DecidableEq, Repr

/-- A screen. -/
structure Screen where
  /-- The path of the script. -/
  path : Text
  viewport : Viewport := ⟨80, 20, 0, []⟩
  field : TextField := {}
  /-- Whether the size of the terminal is known. -/
  ready : Bool := false
  status : Status := .starting
  running : Bool := false
  /-- The run that is followed. -/
  run : Option RunId := none
  pending : Option Pending := none
  /-- The lines of output so far. -/
  lines : List Text := []

namespace Screen

/-- A reaction to a message. -/
structure Reaction where
  screen : Screen
  effects : List Effect := []
  command : Option Command := none

/-- What stands on the screen while there is no output. -/
def emptyNotice : Text := utf8 "(no output yet)"

/-- The output, or a notice that there is none. -/
def content (s : Screen) : Text :=
  let text := Text.join [0x0A] s.lines
  if text = [] then emptyNotice else text

/-- Put the output into the viewport, and its end into view. -/
def refresh (s : Screen) : Screen :=
  { s with viewport := s.viewport.display s.content }

/-- Add a line of output. -/
def append (s : Screen) (line : Text) : Screen := { s with lines := s.lines ++ [line] }.refresh

/-- The command to wait for the run that is followed. -/
def awaitRun (s : Screen) : Option Command := s.run.map .await

/-- The effects of giving up the run that is followed. -/
def cancelRun (s : Screen) : List Effect := (s.run.map Effect.cancel).toList

/-- The reaction to the end of a run. -/
def finish (s : Screen) (failure : Option Text) : Screen :=
  let s := { s with running := false, pending := none, field := s.field.blur }
  match failure with
  | none => { s with status := .done }
  | some message => { s with status := .failed }.append (Block.ofText message)

/-- Give what stands in the text field as the answer to a request. -/
def submit (s : Screen) (p : Pending) : Reaction :=
  let answer := s.field.value
  let s := s.append (Block.ofText (p.request.prompt ++ answer))
  let s := { s with pending := none, field := s.field.blur.clear, status := .running }
  ⟨s, [.answer p.asker answer], s.awaitRun⟩

/-- The reaction to a key while a request is pending: enter gives the answer, other keys edit it. -/
def pressPending (s : Screen) (p : Pending) (key : Key) : Reaction :=
  if key.bare = .enter then s.submit p else { screen := { s with field := s.field.press key } }

/-- The reaction to a key while no request is pending. -/
def pressIdle (s : Screen) (key : Key) : Reaction :=
  match key.name with
  | "q" => ⟨s, s.cancelRun, some .quit⟩
  | "r" =>
    if s.running then { screen := s }
    else ⟨{ { s with lines := [] }.refresh with status := .restarting }, s.cancelRun, some .start⟩
  | "g" | "home" => { screen := { s with viewport := s.viewport.toTop } }
  | "G" | "end" => { screen := { s with viewport := s.viewport.toBottom } }
  | _ => { screen := { s with viewport := s.viewport.press key } }

/-- The reaction to a key.  The interrupt and enter count with and without the alt key; other keys
are told apart by their names. -/
def press (s : Screen) (key : Key) : Reaction :=
  if key.bare = .interrupt then ⟨s, s.cancelRun, some .quit⟩
  else match s.pending with
    | some p => s.pressPending p key
    | none => s.pressIdle key

/-- The reaction to a message. -/
def update (s : Screen) : Message → Reaction
  | .resize width height =>
    let viewport := { s.viewport with width, height := max 1 (height - 2) }
    let field := { s.field with width := width - 4 }
    { screen := { s with viewport, field, ready := true }.refresh }
  | .started run =>
    let s := { s with run, running := true, status := .running }
    ⟨s, [], s.awaitRun⟩
  | .output text =>
    let s := s.append text
    ⟨s, [], s.awaitRun⟩
  | .request request asker =>
    { screen := { s with
        pending := some ⟨request, asker⟩
        field := s.field.clear.focus
        status := .reading request.name } }
  | .done failure => { screen := s.finish failure }
  | .key key => s.press key

/-- The row below the viewport: a pending request with its text field, or else the status. -/
def footer (s : Screen) : Text :=
  match s.pending with
  | some p => Block.padded (p.request.prompt ++ s.field.view)
  | none =>
    let status := Block.ofText (s.path ++ utf8 " | " ++ s.status.label)
    if s.running then status else status ++ utf8 "  (r: rerun, q: quit)"

/-- The screen as shown. -/
def view (s : Screen) : Text :=
  if s.ready then s.viewport.view ++ [0x0A] ++ s.footer else utf8 "initializing..."

end Screen

end Scriptlet
