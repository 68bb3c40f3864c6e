import Scriptlet.Proofs.EncodedRuns
import Scriptlet.Proofs.HostAgreement
import Scriptlet.Proofs.JsonValues

/-!
# Scriptlet.Proofs.Reply — nothing is lost on the way through a reply of the bridge

The bridge answers in JSON, where a byte that belongs to no character would be replaced.  There is
none: whatever the source, the answers and the return mode are, the lines and the complaint of a
reply are well-formed UTF-8, and reading the reply gives them back (`reply_lossless`).

* A source is refused where it is not well-formed, so that the texts of a program are.
* The answers come out of JSON, where everything that is no character has been replaced.
* A name of a return mode is quoted in the complaint about it.
-/

namespace Scriptlet

/-! ### Reading a reply -/

/-- What a reply says: the lines, and the complaint.  Lines are missing where `null` stands for
them. -/
structure Reply where
  outputs : Option (List Output)
  error : Option Text
  deriving DecidableEq, Repr

namespace Json.Value

/-- The value of a member of an object.  Of several with the same name the last one counts. -/
def get? (v : Value) (key : String) : Option Value :=
  match v with
  | .object members => members.reverse.lookup (utf8 key)
  | _ => none

/-- A line, whose mark may be missing. -/
def output? (v : Value) : Option Output :=
  match v.get? "text", v.get? "input" with
  | some (.text t), none => some ⟨t, false⟩
  | some (.text t), some (.bool input) => some ⟨t, input⟩
  | _, _ => none

def outputs? : Value → Option (Option (List Output))
  | .null => some none
  | .list items => (items.mapM output?).map some
  | _ => none

def reply? (v : Value) : Option Reply := do
  let outputs ← (← v.get? "outputs").outputs?
  match v.get? "error" with
  | none => return ⟨outputs, none⟩
  | some (.text t) => return ⟨outputs, some t⟩
  | some _ => none

end Json.Value

/-- What a reply in JSON says. -/
def Reply.read? (t : Text) : Option Reply := (Json.read? t).bind (·.reply?)

/-- What the reply to a run is to say: the lines of a run that succeeded, if there are any, or the
complaint. -/
def Bridge.reply : Except BridgeError (List Output) → Reply
  | .ok [] => ⟨none, none⟩
  | .ok outputs => ⟨some outputs, none⟩
  | .error e => ⟨none, some e.message⟩

/-! ### Writing a reply -/

theorem Text.length_le_join (separator t : Text) (ts : List Text) :
    t.length ≤ (Text.join separator (t :: ts)).length := by
  cases ts with
  | nil => exact Nat.le_refl _
  | cons u ts =>
    rw [Text.join, List.length_append, List.length_append]
    omega

/-- The braces of an object, the quotes of its first name and the colon. -/
theorem Json.four_le_length_object (key : String) (t : Text) (members : List (String × Text)) :
    4 ≤ (Json.object ((key, t) :: members)).length := by
  have hquote : (utf8 "\"").length = 1 := by decide
  have hopen : (utf8 "\x7b").length = 1 := by decide
  have hclose : (utf8 "\x7d").length = 1 := by decide
  rw [Json.object, List.map_cons]
  generalize List.map _ members = rest
  have hjoin := Text.length_le_join (utf8 ",") (Json.string (utf8 key) ++ utf8 ":" ++ t) rest
  simp only [Json.string, List.length_append] at hjoin ⊢
  omega

namespace Bridge

open Json (Writes writes_null writes_true writes_string writes_array writes_object)

/-- The JSON value of a line. -/
def outputValue (o : Output) : Json.Value :=
  .object ((utf8 "text", .text o.text) :: if o.input then [(utf8 "input", .bool true)] else [])

theorem output?_outputValue (o : Output) : (outputValue o).output? = some o := by
  obtain ⟨t, input⟩ := o
  cases input with
  | false => rfl
  | true => rfl

theorem mapM_output? (outputs : List Output) :
    (outputs.map outputValue).mapM Json.Value.output? = some outputs := by
  induction outputs with
  | nil => rfl
  | cons o outputs ih =>
    rw [List.map_cons, List.mapM_cons, output?_outputValue, ih]
    rfl

theorem writes_encodeOutput {n : Nat} {o : Output} (h : o.text.IsUtf8) :
    Writes (n + 2) (encodeOutput o) (outputValue o) := by
  obtain ⟨t, input⟩ := o
  have htext : Writes (n + 1) (Json.string t) (.text t) := writes_string h
  cases input with
  | false => exact @writes_object _ [("text", _, _)] (List.forall_mem_singleton.2 htext)
  | true =>
    exact @writes_object _ [("text", _, _), ("input", _, _)]
      (List.forall_mem_cons.2 ⟨htext, List.forall_mem_singleton.2 writes_true⟩)

theorem writes_encodeOutputs {n : Nat} {outputs : List Output}
    (h : ∀ o ∈ outputs, o.text.IsUtf8) :
    Writes (n + 3) (Json.array (outputs.map encodeOutput)) (.list (outputs.map outputValue)) := by
  have harray := @writes_array (n + 2) (outputs.map fun o => (encodeOutput o, outputValue o))
    (List.forall_mem_map.2 fun o ho => writes_encodeOutput (h o ho))
  rw [List.map_map, List.map_map] at harray
  exact harray

/-- The lines of a run that succeeded and the complaint of one that failed are well-formed. -/
structure WellEncoded (r : Except BridgeError (List Output)) : Prop where
  outputs : ∀ outputs, r = .ok outputs → ∀ o ∈ outputs, o.text.IsUtf8
  message : ∀ e, r = .error e → e.message.IsUtf8

/-- A reply writes a value that says what it is to say. -/
theorem exists_writes_encode {n : Nat} {r : Except BridgeError (List Output)}
    (h : WellEncoded r) :
    ∃ v, Writes (n + 4) (encode r) v ∧ v.reply? = some (reply r) := by
  have hnull : Writes (n + 3) (utf8 "null") .null := writes_null
  cases r with
  | error e =>
    have hmessage : Writes (n + 3) (Json.string e.message) (.text e.message) :=
      writes_string (h.message e rfl)
    exact ⟨_, @writes_object _ [("outputs", _, _), ("error", _, _)]
      (List.forall_mem_cons.2 ⟨hnull, List.forall_mem_singleton.2 hmessage⟩), rfl⟩
  | ok outputs =>
    cases outputs with
    | nil =>
      exact ⟨_, @writes_object _ [("outputs", _, _)] (List.forall_mem_singleton.2 hnull), rfl⟩
    | cons o outputs =>
      have hlines := writes_encodeOutputs (n := n) (h.outputs _ rfl)
      refine ⟨_, @writes_object _ [("outputs", _, _)] (List.forall_mem_singleton.2 hlines), ?_⟩
      show (((((o :: outputs).map outputValue).mapM Json.Value.output?).map some).bind _) = _
      rw [mapM_output?]
      rfl

/-- Lines and a complaint exclude each other. -/
theorem outputs_reply (r : Except BridgeError (List Output)) (h : (reply r).error ≠ none) :
    (reply r).outputs = none := by
  cases r with
  | error e => rfl
  | ok outputs =>
    cases outputs with
    | nil => rfl
    | cons o outputs => exact absurd rfl h

/-- The text of a reply is longer than a reply is deep. -/
theorem four_le_length_encode (r : Except BridgeError (List Output)) : 4 ≤ (encode r).length := by
  cases r with
  | error e => exact Json.four_le_length_object _ _ _
  | ok outputs =>
    cases outputs with
    | nil => exact Json.four_le_length_object _ _ _
    | cons o outputs => exact Json.four_le_length_object _ _ _

theorem read?_encode {r : Except BridgeError (List Output)} (h : WellEncoded r) :
    Reply.read? (encode r) = some (reply r) := by
  obtain ⟨n, hn⟩ := Nat.exists_eq_add_of_le' (four_le_length_encode r)
  obtain ⟨v, hwrites, hreply⟩ := exists_writes_encode (n := n) h
  rw [← hn] at hwrites
  rw [Reply.read?, Json.read?_of_writes hwrites]
  exact hreply

end Bridge

/-! ### The texts of a reply -/

namespace Json

theorem isUtf8_of_item? {rs rest : List Rune} {t : Text} (h : item? rs = some (t, rest)) :
    t.IsUtf8 := by
  unfold item? at h
  split at h
  · obtain ⟨⟨us, rest'⟩, -, hx⟩ := Option.bind_eq_some_iff.1 h
    obtain ⟨rfl, -⟩ := Prod.mk.inj (Option.some.inj hx)
    exact Text.isUtf8_ofChars _
  · obtain ⟨rest', -, hx⟩ := Option.map_eq_some_iff.1 h
    obtain ⟨rfl, -⟩ := Prod.mk.inj hx
    exact Text.isUtf8_nil

theorem isUtf8_of_items? {n : Nat} {rs rest : List Rune} {ts : List Text}
    (h : items? n rs = some (ts, rest)) : ∀ t ∈ ts, t.IsUtf8 := by
  induction n generalizing rs ts rest with
  | zero => cases h
  | succ n ih =>
    obtain ⟨⟨t, rs'⟩, hitem, hrest⟩ := Option.bind_eq_some_iff.1 h
    have ht : t.IsUtf8 := isUtf8_of_item? hitem
    dsimp only at hrest
    split at hrest
    · obtain ⟨⟨ts', rest'⟩, hitems, hx⟩ := Option.bind_eq_some_iff.1 hrest
      obtain ⟨rfl, -⟩ := Prod.mk.inj (Option.some.inj hx)
      exact List.forall_mem_cons.2 ⟨ht, ih hitems⟩
    · obtain ⟨rfl, -⟩ := Prod.mk.inj (Option.some.inj hrest)
      exact List.forall_mem_singleton.2 ht
    · cases hrest

theorem isUtf8_of_list? {rs rest : List Rune} {ts : List Text} (h : list? rs = some (ts, rest)) :
    ∀ t ∈ ts, t.IsUtf8 := by
  unfold list? at h
  split at h
  · split at h
    · obtain ⟨rfl, -⟩ := Prod.mk.inj (Option.some.inj h)
      exact List.forall_mem_nil _
    · exact isUtf8_of_items? h
  · obtain ⟨rest', -, hx⟩ := Option.map_eq_some_iff.1 h
    obtain ⟨rfl, -⟩ := Prod.mk.inj hx
    exact List.forall_mem_nil _

end Json

theorem BridgeError.message_ne_nil (e : BridgeError) : e.message ≠ [] := by
  have happend (s : String) (t : Text) (h : utf8 s ≠ []) : utf8 s ++ t ≠ [] :=
    List.append_ne_nil_of_left_ne_nil h t
  cases e with
  | noSource => decide
  | invalidInputs => decide
  | unknownReturnMode raw =>
    rw [message, ReturnMode.unknownMessage, List.append_assoc]
    exact happend _ _ (by decide)
  | lexical fault => exact happend _ _ (by decide)
  | grammar error => exact happend _ _ (by decide)
  | run error => exact happend _ _ (by decide)

/-- A complaint made before a run is well-formed. -/
theorem BridgeError.isUtf8_message (e : BridgeError) (h : ∀ error, e ≠ .run error) :
    e.message.IsUtf8 := by
  cases e with
  | noSource => exact Text.isUtf8_utf8 _
  | invalidInputs => exact Text.isUtf8_utf8 _
  | unknownReturnMode raw => exact Json.isUtf8_between _ _ (Text.isUtf8_quote raw)
  | lexical fault => exact (Text.isUtf8_utf8 _).append fault.isUtf8_message
  | grammar error => exact (Text.isUtf8_utf8 _).append error.isUtf8_message
  | run error => exact absurd rfl (h error)

namespace Bridge

variable {source inputsJson returnMode : Text}

/-- Answers are well-formed, whatever bytes they are read from. -/
theorem isUtf8_of_inputs {answers : List Text} (h : inputs inputsJson = .ok answers) :
    ∀ t ∈ answers, t.IsUtf8 := by
  unfold inputs at h
  split at h
  · obtain rfl := Except.ok.inj h
    exact List.forall_mem_nil _
  · split at h
    case h_1 answers' htexts =>
      obtain rfl := Except.ok.inj h
      obtain ⟨⟨ts, rest⟩, hlist, hx⟩ := Option.bind_eq_some_iff.1 htexts
      dsimp only at hx
      split at hx
      · obtain rfl := Option.some.inj hx
        exact Json.isUtf8_of_list? hlist
      · cases hx
    case h_2 => cases h

theorem eq_invalidInputs {e : BridgeError} (h : inputs inputsJson = .error e) :
    e = .invalidInputs := by
  unfold inputs at h
  split at h
  · cases h
  · split at h
    · cases h
    · exact (Except.error.inj h).symm

/-- Either there is a complaint before anything runs, or the parts of the session are there. -/
theorem session_cases (source inputsJson returnMode : Text) :
    (∃ e, session source inputsJson returnMode = .error e ∧ ∀ error, e ≠ .run error) ∨
      ∃ tokens p mode answers, tokenize source = .ok tokens ∧ parse tokens = .ok p ∧
        inputs inputsJson = .ok answers ∧
        session source inputsJson returnMode = .ok (sessionOf p mode answers) := by
  by_cases hsource : source.trim = []
  · refine .inl ⟨.noSource, ?_, by simp⟩
    rw [session, if_pos hsource]
    rfl
  cases hinputs : inputs inputsJson with
  | error e =>
    refine .inl ⟨e, ?_, by simp [eq_invalidInputs hinputs]⟩
    rw [session, if_neg hsource, hinputs]
    rfl
  | ok answers =>
    cases hmode : ReturnMode.parse? returnMode with
    | none =>
      refine .inl ⟨.unknownReturnMode returnMode, ?_, by simp⟩
      rw [session, if_neg hsource, hinputs, hmode]
      rfl
    | some mode =>
      have hsession := session_eq hsource hmode hinputs
      cases hl : tokenize source with
      | error fault =>
        rw [hl] at hsession
        exact .inl ⟨_, hsession, by simp⟩
      | ok tokens =>
        rw [hl] at hsession
        dsimp only at hsession
        cases hp : parse tokens with
        | error error =>
          rw [hp] at hsession
          exact .inl ⟨_, hsession, by simp⟩
        | ok p =>
          rw [hp] at hsession
          exact .inr ⟨tokens, p, mode, answers, rfl, hp, rfl, hsession⟩

theorem console_sessionOf (p : Program) (mode : ReturnMode) {answers : List Text}
    (h : ∀ t ∈ answers, t.IsUtf8) : (sessionOf p mode answers).console.WellEncoded := by
  refine ⟨h, List.forall_mem_nil _, rfl, fun name hname => ?_⟩
  have hprompt : Prompt.expand Prompt.standard name =
      utf8 "Enter the value of " ++ name ++ utf8 ": " := rfl
  show (Prompt.expand Prompt.standard name).IsUtf8
  rw [hprompt]
  exact Json.isUtf8_between _ _ hname

theorem wellEncoded_of_run {n : Nat} {r : Except BridgeError (List Output)}
    (h : run source inputsJson returnMode n = some r) : WellEncoded r := by
  rw [run] at h
  rcases session_cases source inputsJson returnMode with
    ⟨e, hsession, he⟩ | ⟨tokens, p, mode, answers, hl, hp, hinputs, hsession⟩
  · rw [hsession] at h
    obtain rfl := Option.some.inj h
    refine ⟨fun outputs houtputs => ?_, fun e' herror => ?_⟩
    · cases houtputs
    · obtain rfl := Except.error.inj herror
      exact e.isUtf8_message he
  · rw [hsession] at h
    obtain ⟨⟨record, s'⟩, hrun, hr⟩ := Option.map_eq_some_iff.1 h
    obtain ⟨hlines, hmessage⟩ := Session.isUtf8_of_run (Program.isUtf8_of_source hl hp)
      (console_sessionOf p mode (isUtf8_of_inputs hinputs)) hrun
    dsimp only [RunRecord.returned] at hr
    cases hresult : record.result with
    | ok u =>
      obtain rfl : .ok record.outputs = r := by
        rw [hresult] at hr
        exact hr
      refine ⟨fun outputs houtputs => ?_, fun e herror => ?_⟩
      · obtain rfl := Except.ok.inj houtputs
        exact hlines
      · cases herror
    | error error =>
      obtain rfl : .error (.run error) = r := by
        rw [hresult] at hr
        exact hr
      refine ⟨fun outputs houtputs => ?_, fun e herror => ?_⟩
      · cases houtputs
      · obtain rfl := Except.error.inj herror
        exact (Text.isUtf8_utf8 _).append (hmessage error hresult)

end Bridge

/-- **A reply loses nothing.**  Let a source, a list of answers in JSON and the name of a return
mode be any bytes.  The lines of the run are well-formed UTF-8, and so is its complaint, which is
not empty.  Reading the reply gives the lines in order with their marks, or nothing where there are
no lines, and the complaint, if the run failed.  A reply with a complaint has no lines. -/
theorem reply_lossless {source inputsJson returnMode : Text} {n : Nat}
    {r : Except BridgeError (List Output)}
    (h : Bridge.run source inputsJson returnMode n = some r) :
    (∀ outputs, r = .ok outputs → ∀ o ∈ outputs, o.text.IsUtf8) ∧
      (∀ e, r = .error e → e.message.IsUtf8 ∧ e.message ≠ []) ∧
      Reply.read? (Bridge.encode r) = some (Bridge.reply r) ∧
      ∀ reply, Reply.read? (Bridge.encode r) = some reply →
        reply.error ≠ none → reply.outputs = none := by
  have hutf8 := Bridge.wellEncoded_of_run h
  have hread := Bridge.read?_encode hutf8
  refine ⟨hutf8.outputs, fun e he => ⟨hutf8.message e he, e.message_ne_nil⟩, hread,
    fun reply hreply => ?_⟩
  obtain rfl := Option.some.inj (hread.symm.trans hreply)
  exact Bridge.outputs_reply r

/-- An answer with a control character and half of a surrogate pair, and a line with characters that
are escaped. -/
theorem reply_lossless_escaped :
    let source := utf8 "read x; print \"<\u2028é>\";"
    let inputsJson := utf8 "[\"\\u00e9\\u0001\\ud800\"]"
    let outputs : List Output :=
      [⟨utf8 "Enter the value of x: é\x01\uFFFD", true⟩, ⟨utf8 "\"<\u2028é>\"", false⟩]
    Bridge.run source inputsJson [] 9 = some (.ok outputs) ∧
      Reply.read? (Bridge.encode (.ok outputs)) = some ⟨some outputs, none⟩ := by
  intro source inputsJson outputs
  have hsource : source.trim ≠ [] := by
    have hrunes : source.runes = _ := Json.runes_utf8 _
    rw [Text.trim, hrunes]
    decide
  have hnil : Text.runes [] = [] := Rune.runes_ofChars []
  have hmode : ReturnMode.parse? [] = some .discard := by
    simp [ReturnMode.parse?, Text.optionWord, Text.trim, Text.lower, hnil, trimBoth, Text.ofRunes]
  have hrunes : inputsJson.runes = _ := Json.runes_utf8 _
  have htrim : inputsJson.trim ≠ [] := by
    rw [Text.trim, hrunes]
    decide
  have htexts : Json.texts? inputsJson = some [utf8 "é\x01\uFFFD"] := by
    rw [Json.texts?, hrunes]
    decide +kernel
  have hinputs : Bridge.inputs inputsJson = .ok [utf8 "é\x01\uFFFD"] := by
    rw [Bridge.inputs, if_neg htrim, htexts]
  have htokens : tokenize source = .ok [utf8 "read", utf8 "x", utf8 ";", utf8 "print",
      utf8 "\"<\u2028é>\"", utf8 ";"] := Lexicon.tokenize_of_toOption (by decide +kernel)
  have hrun : Bridge.run source inputsJson [] 9 = some (.ok outputs) := by
    rw [Bridge.run, Bridge.session_eq hsource hmode hinputs, htokens]
    rfl
  exact ⟨hrun, (reply_lossless hrun).2.2.1⟩

end Scriptlet
