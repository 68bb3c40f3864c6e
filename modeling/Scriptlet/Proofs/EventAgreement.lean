import Scriptlet.Proofs.HostAgreement
import Scriptlet.Proofs.SourceText
import Scriptlet.Screen.Stage

/-!
# Scriptlet.Proofs.EventAgreement — the same run as events, on streams and on a screen

A run that is followed through events shows the same entries as a run on streams: a line is an event
and a line of the stream, a request is an event and a prompt on the stream.  The result is the last
event, and it is the result of the run on streams.  A screen that is told of the events one after
the other, and on which each request is answered, has a line for each entry, and one more for a
failure.

* `d.Sated ts`: the answers `ts` are enough for all requests that the dialogue `d` makes.
* `p.HandsOut prompt ts events`: the run `p` hands out `events`, one at a time, when its requests get
  the answers `ts`.
* `s.follow run events fields`: the screen `s` after `events`, where each request is answered by the
  enter key with the next of `fields` for its text field.
-/

namespace Scriptlet

/-- There are enough answers for the requests of a dialogue, as far as it is followed. -/
def Dialogue.Sated {ρ : Type} : Dialogue ρ → List Text → Prop
  | .done _, _ => True
  | .say _ next, ts => next.Sated ts
  | .ask _ _, [] => False
  | .ask _ next, t :: ts => (next (.ok t)).Sated ts
  | .poll next, ts => (next false).Sated ts
  | .cut, _ => True

/-- There are enough answers for the requests of a script, as far as its run is followed. -/
def Script.Sated (script : Script) (ts : List Text) (n : Nat) : Prop :=
  match script.program with
  | .error _ => True
  | .ok p => (p.dialogue script.settings.returnMode n).Sated ts

/-- The template for the prompts of a script. -/
def Script.template (script : Script) : Text := Prompt.template script.settings.prompt

/-! ### Entries among events, and on a screen -/

namespace Entry

/-- The event that an entry is. -/
def event (template : Text) : Entry → Event
  | line text => .output ⟨text, false⟩
  | reply name _ => .request ⟨name, Prompt.expand template name⟩

/-- The line of a screen that an entry is.  An answer follows its prompt. -/
def shown (template : Text) : Entry → Text
  | line text => text
  | reply name answer => Block.ofText (Prompt.expand template name ++ answer)

end Entry

/-- The lines of a screen that a result adds. -/
def shownResult : Except HostError Unit → List Text
  | .ok () => []
  | .error e => [Block.ofText (Event.errorMessage e)]

/-! ### Texts without line feeds and tabs -/

theorem Text.replace_of_not_mem {old : Text} {b : UInt8} (hb : b ∈ old) (new : Text) {t : Text}
    (ht : b ∉ t) : Text.replace old new t = t := by
  show Text.replaceFrom old new 0 t = t
  induction t with
  | nil => rfl
  | cons c t ih =>
    have hnot : ¬ (old ≠ [] ∧ old.isPrefixOf (c :: t) = true) := by
      rintro ⟨-, hfront⟩
      exact ht ((List.isPrefixOf_iff_prefix.1 hfront).subset hb)
    have hrest : b ∉ t := fun h => ht (List.mem_cons_of_mem c h)
    rw [Text.replaceFrom, if_neg hnot, ih hrest]

theorem Text.lines_of_not_mem {t : Text} (h : 0x0A ∉ t) : t.lines = [t] := by
  show Text.split 0x0A t = [t]
  induction t with
  | nil => rfl
  | cons b t ih =>
    have hb : b ≠ 0x0A := fun hb => h (hb ▸ List.mem_cons_self)
    have hrest : 0x0A ∉ t := fun hmem => h (List.mem_cons_of_mem b hmem)
    rw [Text.split, if_neg hb, ih hrest]

theorem Block.flatMap_of_not_mem {t : Text} (h : 0x09 ∉ t) :
    t.flatMap (fun b => if b = 0x09 then Block.spaces 4 else [b]) = t := by
  induction t with
  | nil => rfl
  | cons b t ih =>
    have hb : b ≠ 0x09 := fun hb => h (hb ▸ List.mem_cons_self)
    have hrest : 0x09 ∉ t := fun hmem => h (List.mem_cons_of_mem b hmem)
    rw [List.flatMap_cons, if_neg hb, ih hrest]
    rfl

/-- A single line without tabs is a block as it is. -/
theorem Block.ofText_of_not_mem {t : Text} (hline : 0x0A ∉ t) (htab : 0x09 ∉ t) :
    Block.ofText t = t := by
  have hplain : Block.plain t = t := by
    rw [Block.plain, Block.flatMap_of_not_mem htab]
    exact Text.replace_of_not_mem (b := 0x0A) (by simp) _ hline
  have hwidth : max 0 (Block.widest [t]) = Terminal.columns t := by
    simp [Block.widest]
  rw [Block.ofText, hplain, Text.lines_of_not_mem hline, Block.flush, hwidth]
  simp [Block.fill, Block.spaces, Block.stack, Text.join]

/-! ### Events one at a time -/

/-- The run hands out the events one after the other, and gets the next answer after each request. -/
inductive Producer.HandsOut (prompt : Text) : Producer → List Text → List Event → Prop
  | over {ts : List Text} : HandsOut prompt .over ts []
  | event {p p' : Producer} {ts : List Text} {event : Event} {events : List Event}
    (hnext : p.next? prompt = some (event, p')) (hrequest : ∀ r, event ≠ .request r)
    (h : HandsOut prompt p' ts events) : HandsOut prompt p ts (event :: events)
  | request {p p' : Producer} {t : Text} {ts : List Text} {r : Request} {events : List Event}
    (hnext : p.next? prompt = some (.request r, p')) (h : HandsOut prompt (p'.answer t) ts events) :
    HandsOut prompt p (t :: ts) (.request r :: events)

/-- The last event. -/
theorem Producer.HandsOut.result {prompt : Text} {p : Producer} {ts : List Text}
    {result : Except HostError Unit} (hnext : p.next? prompt = some (.done result, .over)) :
    HandsOut prompt p ts [.done result] :=
  .event hnext (fun _ => Event.noConfusion) .over

/-- A look at whether the run is cancelled is no event. -/
theorem Producer.HandsOut.poll {prompt : Text} {next : Bool → Dialogue Report} {ts : List Text}
    {events : List Event} (h : HandsOut prompt (.running (next false)) ts events) :
    HandsOut prompt (.running (.poll next)) ts events := by
  cases h with
  | event hnext hrequest h => exact .event hnext hrequest h
  | request hnext h => exact .request hnext h

namespace Dialogue.Leaves

variable {d d' : Dialogue Report} {ts ts' : List Text} {entries : List Entry}

/-- There are enough answers if there are enough for the rest. -/
theorem sated_iff (h : d.Leaves ts entries d' ts') : d.Sated ts ↔ d'.Sated ts' := by
  induction h with
  | stay => exact Iff.rfl
  | say _ ih => exact ih
  | ask _ ih => exact ih
  | poll _ ih => exact ih

/-- The entries are events. -/
theorem ofDialogue (h : d.Leaves ts entries d' ts') (template : Text) (events : Array Event) :
    Events.ofDialogue template d ts events =
      Events.ofDialogue template d' ts' (events ++ entries.map (·.event template)) := by
  induction h generalizing events with
  | stay => simp
  | say _ ih => exact (ih _).trans (by simp [Entry.event])
  | ask _ ih => exact (ih _).trans (by simp [Entry.event])
  | poll _ ih => exact ih events

/-- The entries are handed out as events, one after the other. -/
theorem handsOut (h : d.Leaves ts entries d' ts') (template : Text) {events : List Event}
    (hd' : Producer.HandsOut template (.running d') ts' events) :
    Producer.HandsOut template (.running d) ts (entries.map (·.event template) ++ events) := by
  induction h with
  | stay => exact hd'
  | say _ ih => exact .event rfl nofun (ih hd')
  | ask _ ih => exact .request rfl (ih hd')
  | poll _ ih => exact (ih hd').poll

end Dialogue.Leaves

/-! ### Events on a screen -/

namespace Screen

/-- The screen after events of a run.  Each request is answered by the enter key with the next of
the given text fields in the place of the text field; without one it stays pending. -/
def follow (run : RunId) : Screen → List Event → List TextField → Screen
  | s, [], _ => s
  | s, .request r :: events, field :: fields =>
    let asked := (s.update (Stage.report run (.request r))).screen
    follow run ({ asked with field }.update (.key .enter)).screen events fields
  | s, event :: events, fields => follow run (s.update (Stage.report run event)).screen events fields

/-- An answered request adds its prompt and the answer. -/
theorem lines_answered (s : Screen) (run : RunId) (r : Request) (field : TextField) :
    let asked := (s.update (Stage.report run (.request r))).screen
    (({ asked with field } : Screen).update (.key .enter)).screen.lines =
      s.lines ++ [Block.ofText (r.prompt ++ field.value)] := rfl

theorem lines_result (s : Screen) (run : RunId) (result : Except HostError Unit) :
    (s.update (Stage.report run (.done result))).screen.lines = s.lines ++ shownResult result := by
  cases result with
  | ok u => exact (List.append_nil s.lines).symm
  | error e => rfl

/-- By induction on the entries. -/
theorem lines_follow (run : RunId) (template : Text) (entries : List Entry)
    (result : Except HostError Unit) (s : Screen) {fields : List TextField}
    (h : entries.filterMap Entry.answer? <+: fields.map (·.value)) :
    (s.follow run (entries.map (·.event template) ++ [.done result]) fields).lines =
      s.lines ++ entries.map (·.shown template) ++ shownResult result := by
  induction entries generalizing s fields with
  | nil =>
    rw [List.map_nil, List.map_nil, List.append_nil]
    exact lines_result s run result
  | cons entry entries ih =>
    cases entry with
    | line text =>
      have hnext := ih (s.update (.output text)).screen h
      have hlines : (s.update (.output text)).screen.lines = s.lines ++ [text] := rfl
      rw [hlines, List.append_assoc s.lines] at hnext
      exact hnext
    | reply name answer =>
      cases fields with
      | nil => cases List.prefix_nil.1 h
      | cons field fields =>
        obtain ⟨hanswer, hrest⟩ := List.cons_prefix_cons.1 h
        obtain rfl : answer = field.value := hanswer
        have hnext := ih (({ (s.update (Stage.report run
          (.request ⟨name, Prompt.expand template name⟩))).screen with field } : Screen).update
            (.key .enter)).screen hrest
        rw [lines_answered, List.append_assoc s.lines] at hnext
        exact hnext

end Screen

/-! ### The three hosts -/

/-- **Events, streams and the screen show the same run.**  Let the answers `ts` be lines, and enough
for the requests of a script.  Either the run goes on as events and on streams alike, or it ends with
some entries and a result, and then:

* the events are those of the entries, and last of all the result;
* on streams the entries are written one after the other, and the result is the same;
* a run in the background hands out the events in this order;
* a screen that is told of the events, with the answers `ts` in its text field, gets a line for each
  entry, and one for a failure.

A failure of the script itself is worded alike for events and on streams; a failure of the run has
`run: ` before it on streams.  A single line without tabs is shown as it is. -/
theorem events_agree_with_plain (script : Script) {ts : List Text} (hts : ∀ t ∈ ts, IsLine t)
    {n : Nat} (hsated : script.Sated ts n) :
    ((Events.ofScript script ts n = none ∧
        Plain.run script ⟨Text.unlines ts, none⟩ false n = none) ∨
      ∃ (entries : List Entry) (result : Except HostError Unit),
        let events := entries.map (·.event script.template) ++ [.done result]
        entries.filterMap Entry.answer? <+: ts ∧
          Events.ofScript script ts n = some events ∧
          Plain.run script ⟨Text.unlines ts, none⟩ false n =
            some ⟨entries.flatMap (·.written script.template), result⟩ ∧
          (Producer.ofScript script n).HandsOut script.template ts events ∧
          ∀ (run : RunId) (s : Screen) (fields : List TextField), fields.map (·.value) = ts →
            (s.follow run events fields).lines =
              s.lines ++ entries.map (·.shown script.template) ++ shownResult result) ∧
      (∀ e, Event.errorMessage (.script e) = Plain.errorMessage (.script e)) ∧
      (∀ e, Plain.errorMessage (.run e) = utf8 "run: " ++ Event.errorMessage (.run e)) ∧
      ∀ t : Text, 0x0A ∉ t → 0x09 ∉ t → Block.ofText t = t := by
  refine ⟨?_, fun _ => rfl, fun _ => rfl, fun t => Block.ofText_of_not_mem⟩
  unfold Script.Sated at hsated
  unfold Events.ofScript Plain.run Producer.ofScript
  cases hp : script.program with
  | error e =>
    refine .inr ⟨[], .error (.script e), List.nil_prefix, rfl, rfl, .result rfl, ?_⟩
    intro run s fields _
    exact s.lines_follow run script.template [] _ List.nil_prefix
  | ok p =>
    rw [hp] at hsated
    dsimp only at hsated ⊢
    obtain ⟨entries, d, ts', hleaves, hrests⟩ := Dialogue.exists_leaves _ ts
    rw [hleaves.sated_iff] at hsated
    rw [hleaves.ofDialogue, hleaves.converse hts]
    cases hrests with
    | cut => exact .inl ⟨rfl, rfl⟩
    | ask => exact hsated.elim
    | @done report =>
      have hanswers : entries.filterMap Entry.answer? <+: ts := ⟨ts', hleaves.answers.symm⟩
      refine .inr ⟨entries, report.result.mapError .run, hanswers, ?_, ?_, ?_, ?_⟩
      · simp [Events.ofDialogue, Script.template]
      · simp [Plain.converse, Script.template]
      · exact hleaves.handsOut _ (.result rfl)
      · intro run s fields hfields
        exact s.lines_follow run script.template entries _ (hfields ▸ hanswers)

/-- A script that reads one of two answers, prints it, and fails. -/
theorem events_agree_with_plain_read :
    let script : Script := ⟨utf8 "a.fs", .ok (utf8 "read x; print x; f();"), Settings.standard⟩
    let ts := [utf8 "seven", utf8 "not read"]
    let fields : List TextField := [{ chars := "seven".toList }, { chars := "not read".toList }]
    ((∀ t ∈ ts, IsLine t) ∧ script.Sated ts 9 ∧ fields.map (·.value) = ts) ∧
      ∃ (entries : List Entry) (result : Except HostError Unit),
        let events := entries.map (·.event script.template) ++ [.done result]
        Events.ofScript script ts 9 = some events ∧
          Plain.run script ⟨Text.unlines ts, none⟩ false 9 =
            some ⟨entries.flatMap (·.written script.template), result⟩ ∧
          ∀ (run : RunId) (s : Screen), (s.follow run events fields).lines =
            s.lines ++ entries.map (·.shown script.template) ++ shownResult result := by
  intro script ts fields
  let x := utf8 "x"
  let f := utf8 "f"
  have htokens : tokenize (utf8 "read x; print x; f();") = .ok [utf8 "read", x, utf8 ";",
      utf8 "print", x, utf8 ";", f, utf8 "(", utf8 ")", utf8 ";"] :=
    Lexicon.tokenize_of_toOption (by decide +kernel)
  have hparse : parse [utf8 "read", x, utf8 ";", utf8 "print", x, utf8 ";", f, utf8 "(", utf8 ")",
      utf8 ";"] = .ok [.read x, .print x, .call f []] := rfl
  have hprogram : script.program = .ok [.read x, .print x, .call f []] := by
    simp only [Script.program, script, htokens, hparse]
  have hts : ∀ t ∈ ts, IsLine t := by decide
  have hfields : fields.map (·.value) = ts := by decide
  have hsated : script.Sated ts 9 := by
    unfold Script.Sated
    rw [hprogram]
    trivial
  have hfinished : Events.ofScript script ts 9 ≠ none := by
    unfold Events.ofScript
    rw [hprogram]
    exact Option.some_ne_none _
  refine ⟨⟨hts, hsated, hfields⟩, ?_⟩
  obtain ⟨⟨hnone, -⟩ | ⟨entries, result, -, hevents, hplain, -, hlines⟩, -⟩ :=
    events_agree_with_plain script hts hsated
  · exact absurd hnone hfinished
  · exact ⟨entries, result, hevents, hplain, fun run s => hlines run s fields hfields⟩

end Scriptlet
