import Scriptlet.Host.Plain
import Scriptlet.Proofs.JsonTexts
import Scriptlet.Proofs.MoreInput

/-!
# Scriptlet.Proofs.HostAgreement — the same run on streams and over the bridge

The bridge is given all answers in advance and echoes them; the plain host reads one line for each
request, after writing the prompt.  On the same answers they hold the same dialogue as long as there
are answers, and the first request without an answer ends the run on both sides.

* `Entry`: what a run leaves on either side, a line, or a request with its answer.
* `d.Leaves ts entries d' ts'`: with the first of the answers `ts` the dialogue `d` leaves `entries`
  on its way to `d'`, and the answers `ts'` are left.  What a host makes of `d` is then what it makes
  of `d'` after these entries, which is one lemma for each host.
-/

namespace Scriptlet

/-! ### Reading lines -/

/-- A text that comes out of a stream of lines as it went in. -/
def IsLine (t : Text) : Prop := 0x0A ∉ t ∧ t.getLast? ≠ some 0x0D

instance (t : Text) : Decidable (IsLine t) := inferInstanceAs (Decidable (_ ∧ _))

namespace InputStream

theorem chomp_of_isLine {t : Text} (h : IsLine t) : chomp t = t := by
  have hhead : t.reverse.head? ≠ some 0x0D := by
    rw [List.head?_reverse]
    exact h.2
  have hdrop : t.reverse.dropWhile (· == 0x0D) = t.reverse := by
    cases hr : t.reverse with
    | nil => rfl
    | cons b r =>
      rw [hr] at hhead
      exact List.dropWhile_cons_of_neg (by simpa using hhead)
  rw [chomp, hdrop, List.reverse_reverse]

theorem readLine_unlines {t : Text} (h : IsLine t) (ts : List Text) :
    readLine ⟨Text.unlines (t :: ts), none⟩ = (.ok t, ⟨Text.unlines ts, none⟩) := by
  have hpass : ∀ b ∈ t, (b != 0x0A) = true := by
    intro b hb
    rw [bne_iff_ne]
    rintro rfl
    exact h.1 hb
  have hdata : Text.unlines (t :: ts) = t ++ 0x0A :: Text.unlines ts := by
    simp [Text.unlines]
  have hline : (t ++ 0x0A :: Text.unlines ts).takeWhile (· != 0x0A) = t := by
    rw [List.takeWhile_append_of_pos hpass]
    simp
  have hrest : (t ++ 0x0A :: Text.unlines ts).dropWhile (· != 0x0A) = 0x0A :: Text.unlines ts := by
    rw [List.dropWhile_append_of_pos hpass]
    simp
  rw [hdata, readLine]
  dsimp only
  rw [hline, hrest]
  dsimp only
  rw [chomp_of_isLine h]

end InputStream

/-! ### What a run leaves on either side -/

/-- A line of output, or a request with its answer. -/
inductive Entry where
  | line (text : Text)
  | reply (name : Token) (answer : Text)

namespace Entry

/-- An entry among the lines of the bridge. -/
def output (template : Text) : Entry → Output
  | line text => ⟨text, false⟩
  | reply name answer => ⟨Prompt.expand template name ++ answer, true⟩

/-- An entry on the output stream, where the answer does not show. -/
def written (template : Text) : Entry → Text
  | line text => text ++ [0x0A]
  | reply name _ => Prompt.expand template name

def answer? : Entry → Option Text
  | line _ => none
  | reply _ answer => some answer

end Entry

namespace Dialogue

/-- Uncancelled and with the answers `ts`, the dialogue `d` leaves `entries` on its way to `d'`,
where the answers `ts'` are still to be given. -/
inductive Leaves {ρ : Type} :
    Dialogue ρ → List Text → List Entry → Dialogue ρ → List Text → Prop
  | stay {d : Dialogue ρ} {ts : List Text} : Leaves d ts [] d ts
  | say {text : Text} {next d' : Dialogue ρ} {ts ts' : List Text} {entries : List Entry}
    (h : Leaves next ts entries d' ts') : Leaves (.say text next) ts (.line text :: entries) d' ts'
  | ask {name : Token} {next : Answer → Dialogue ρ} {d' : Dialogue ρ} {t : Text}
    {ts ts' : List Text} {entries : List Entry} (h : Leaves (next (.ok t)) ts entries d' ts') :
    Leaves (.ask name next) (t :: ts) (.reply name t :: entries) d' ts'
  | poll {next : Bool → Dialogue ρ} {d' : Dialogue ρ} {ts ts' : List Text} {entries : List Entry}
    (h : Leaves (next false) ts entries d' ts') : Leaves (.poll next) ts entries d' ts'

/-- The dialogue goes no further: it is over or cut, or wants an answer and there is none. -/
inductive Rests {ρ : Type} : Dialogue ρ → List Text → Prop
  | done {result : ρ} {ts : List Text} : Rests (.done result) ts
  | cut {ts : List Text} : Rests .cut ts
  | ask {name : Token} {next : Answer → Dialogue ρ} : Rests (.ask name next) []

variable {ρ : Type} {d d' : Dialogue ρ} {ts ts' : List Text} {entries : List Entry}

theorem exists_leaves (d : Dialogue ρ) (ts : List Text) :
    ∃ entries d' ts', d.Leaves ts entries d' ts' ∧ d'.Rests ts' := by
  induction d generalizing ts with
  | done result => exact ⟨_, _, _, .stay, .done⟩
  | say text next ih =>
    obtain ⟨entries, d', ts', h, hrests⟩ := ih ts
    exact ⟨_, _, _, .say h, hrests⟩
  | ask name next ih =>
    cases ts with
    | nil => exact ⟨_, _, _, .stay, .ask⟩
    | cons t ts =>
      obtain ⟨entries, d', ts', h, hrests⟩ := ih (.ok t) ts
      exact ⟨_, _, _, .ask h, hrests⟩
  | poll next ih =>
    obtain ⟨entries, d', ts', h, hrests⟩ := ih false ts
    exact ⟨_, _, _, .poll h, hrests⟩
  | cut => exact ⟨_, _, _, .stay, .cut⟩

namespace Leaves

/-- The answers are given in their order. -/
theorem answers (h : d.Leaves ts entries d' ts') : ts = entries.filterMap Entry.answer? ++ ts' := by
  induction h with
  | stay => rfl
  | say _ ih => exact ih
  | ask _ ih => exact congrArg (List.cons _) ih
  | poll _ ih => exact ih

/-- On the bridge the entries are lines. -/
theorem play (h : d.Leaves ts entries d' ts') (template : Text) (asked : List Request)
    (outputs : Array Output) (requests : Array Request) (looks : Nat) :
    ∃ looks', d.play .never ⟨template, true, ts, none, asked, outputs, requests, looks⟩ =
      d'.play .never ⟨template, true, ts', none, asked,
        outputs ++ entries.map (·.output template), requests, looks'⟩ := by
  induction h generalizing outputs looks with
  | stay => exact ⟨looks, by simp⟩
  | say _ ih =>
    obtain ⟨looks', hplay⟩ := ih (outputs.push _) looks
    exact ⟨looks', hplay.trans (by simp [Entry.output])⟩
  | ask _ ih =>
    obtain ⟨looks', hplay⟩ := ih (outputs.push _) looks
    exact ⟨looks', hplay.trans (by simp [Entry.output])⟩
  | poll _ ih => exact ih outputs (looks + 1)

/-- On streams the entries are written one after the other. -/
theorem converse (h : d.Leaves ts entries d' ts') (hts : ∀ t ∈ ts, IsLine t) (template : Text)
    (out : Array UInt8) :
    Plain.converse template false d ⟨Text.unlines ts, none⟩ out =
      Plain.converse template false d' ⟨Text.unlines ts', none⟩
        (out ++ entries.flatMap (·.written template)) := by
  induction h generalizing out with
  | stay => simp
  | say _ ih =>
    refine (ih hts _).trans (congrArg (Plain.converse _ _ _ _) (Array.toList_inj.1 ?_))
    simp [Entry.written]
  | ask _ ih =>
    obtain ⟨ht, hrest⟩ := List.forall_mem_cons.1 hts
    rw [Plain.converse, InputStream.readLine_unlines ht]
    refine (ih hrest _).trans (congrArg (Plain.converse _ _ _ _) (Array.toList_inj.1 ?_))
    simp [Entry.written]
  | poll _ ih => exact ih hts out

/-- What follows candidly is candid all along. -/
theorem candid {d d' : Dialogue Report} (h : d.Leaves ts entries d' ts') (hd : d.Candid) :
    d'.Candid := by
  induction h with
  | stay => exact hd
  | say _ ih =>
    cases hd with
    | say hd => exact ih hd
  | ask _ ih =>
    cases hd with
    | ask hd _ => exact ih (hd _)
  | poll _ ih =>
    cases hd with
    | poll hd => exact ih (hd false)

end Leaves

end Dialogue

/-! ### The two hosts -/

/-- What the bridge and the plain host make of a script at `path` with the answers `ts`: neither is
done, or both stop for the same reason, or both succeed and show the same entries. -/
inductive HostsAgree (path : Text) (ts : List Text) :
    Option (Except BridgeError (List Output)) → Option Plain.Outcome → Prop
  | unfinished : HostsAgree path ts none none
  | lexical (fault : LexicalFault) :
    HostsAgree path ts (some (.error (.lexical fault)))
      (some ⟨[], .error (.script (.lexical path fault))⟩)
  | grammar (error : SyntaxError) :
    HostsAgree path ts (some (.error (.grammar error)))
      (some ⟨[], .error (.script (.grammar error))⟩)
  | run (error : RunError) (stdout : Text) :
    HostsAgree path ts (some (.error (.run error))) (some ⟨stdout, .error (.run error)⟩)
  | success (entries : List Entry) (h : entries.filterMap Entry.answer? <+: ts) :
    HostsAgree path ts (some (.ok (entries.map (·.output Prompt.standard))))
      (some ⟨entries.flatMap (·.written Prompt.standard), .ok ()⟩)

/-- The session of a program over the bridge. -/
def Bridge.sessionOf (p : Program) (mode : ReturnMode) (ts : List Text) : Session :=
  (((Session.new p).setReturnMode mode).setEcho true).enqueue ts

theorem Bridge.session_eq {source json raw : Text} {mode : ReturnMode} {ts : List Text}
    (hsource : source.trim ≠ []) (hmode : ReturnMode.parse? raw = some mode)
    (hjson : Bridge.inputs json = .ok ts) :
    Bridge.session source json raw =
      match tokenize source with
      | .error fault => .error (.lexical fault)
      | .ok tokens =>
        match parse tokens with
        | .error error => .error (.grammar error)
        | .ok p => .ok (Bridge.sessionOf p mode ts) := by
  unfold Bridge.session
  rw [if_neg hsource, hjson, hmode]
  cases tokenize source with
  | error fault => rfl
  | ok tokens =>
    show (Except.mapError _ (parse tokens) >>= _) = match parse tokens with
      | .error error => .error (BridgeError.grammar error)
      | .ok p => .ok (Bridge.sessionOf p mode ts)
    cases parse tokens with
    | error error => rfl
    | ok p => rfl

/-- A program with the same answers on both sides. -/
theorem hostsAgree_program (path : Text) (p : Program) (mode : ReturnMode) {ts : List Text}
    (hts : ∀ t ∈ ts, IsLine t) (n : Nat) :
    HostsAgree path ts
      (((Bridge.sessionOf p mode ts).run .never n).map fun (record, _) =>
        record.returned.mapError .run)
      ((Plain.converse Prompt.standard false (p.dialogue mode n) ⟨Text.unlines ts, none⟩ #[]).map
        fun (report, out) => ⟨out.toList, report.result.mapError .run⟩) := by
  obtain ⟨entries, d, ts', hleaves, hrests⟩ := (p.dialogue mode n).exists_leaves ts
  obtain ⟨looks, hplay⟩ := hleaves.play Prompt.standard [] #[] #[] 0
  have hrun : (Bridge.sessionOf p mode ts).run .never n =
      ((p.dialogue mode n).play .never
        ⟨Prompt.standard, true, ts, none, [], #[], #[], 0⟩).map _ := rfl
  rw [hrun, hplay, hleaves.converse hts]
  cases hrests with
  | cut => exact .unfinished
  | @done report =>
    obtain ⟨result, globals, functions⟩ := report
    have hanswers : entries.filterMap Entry.answer? <+: ts := ⟨ts', hleaves.answers.symm⟩
    cases result with
    | error e => exact .run e _
    | ok u =>
      show HostsAgree path ts (some (.ok (_ : Array Output).toList))
        (some ⟨(_ : Array UInt8).toList, .ok ()⟩)
      rw [Array.toList_appendList, Array.toList_appendList]
      exact .success entries hanswers
  | @ask name next =>
    -- no answer on either side, and the run is over with this failure
    cases hleaves.candid (dialogue_candid p mode n) with
    | ask _ hstop =>
      obtain ⟨⟨result, globals, functions⟩, hnext, hr⟩ := hstop .unavailable
      obtain rfl : result = _ := hr
      show HostsAgree path ts ((((next (.error .unavailable)).play .never _).map _).map _)
        ((Plain.converse _ _ (next (.error .unavailable)) _ _).map _)
      rw [hnext]
      exact .run _ _

/-- **The bridge and the plain host agree.**  On a source that is not blank, under the same return
mode, with the standard prompt and the same answers, as a JSON list on one side and as lines of a
stream on the other, they stop for the same reason or show the same entries, and one is done exactly
when the other is.  Every list of lines can be written as a JSON list. -/
theorem bridge_agrees_with_plain {source raw path : Text} {mode : ReturnMode} {ts : List Text}
    (hsource : source.trim ≠ []) (hmode : ReturnMode.parse? raw = some mode)
    (hutf8 : ∀ t ∈ ts, ∃ cs, t = Text.ofChars cs) (hts : ∀ t ∈ ts, IsLine t) :
    Bridge.inputs (Json.array (ts.map Json.string)) = .ok ts ∧
      (∀ json n, Bridge.inputs json = .ok ts →
        HostsAgree path ts (Bridge.run source json raw n)
          (Plain.run ⟨path, .ok source, { Settings.standard with returnMode := mode }⟩
            ⟨Text.unlines ts, none⟩ false n)) ∧
      ∀ e, (BridgeError.run e).message = utf8 "runtime: " ++ e.message ∧
        Plain.errorMessage (.run e) = utf8 "run: " ++ e.message := by
  refine ⟨Bridge.inputs_array hutf8, fun json n hjson => ?_, fun e => ⟨rfl, rfl⟩⟩
  have hsession := Bridge.session_eq hsource hmode hjson
  cases hl : tokenize source with
  | error fault =>
    rw [hl] at hsession
    simp only [Bridge.run, hsession, Plain.run, Script.program, hl]
    exact .lexical fault
  | ok tokens =>
    rw [hl] at hsession
    cases hp : parse tokens with
    | error error =>
      simp only [hp] at hsession
      simp only [Bridge.run, hsession, Plain.run, Script.program, hl, hp]
      exact .grammar error
    | ok p =>
      have htemplate : Prompt.template Settings.standard.prompt = Prompt.standard := ite_self _
      simp only [hp] at hsession
      simp only [Bridge.run, hsession, Plain.run, Script.program, hl, hp, htemplate]
      exact hostsAgree_program path p mode hts n

/-- A script that reads one of two lines and prints it. -/
theorem bridge_agrees_with_plain_read :
    let source := utf8 "read x; print x;"
    let ts := [utf8 "seven", utf8 "not read"]
    (source.trim ≠ [] ∧ ReturnMode.parse? [] = some .discard ∧ ∀ t ∈ ts, IsLine t) ∧
      HostsAgree (utf8 "a.fs") ts (Bridge.run source (Json.array (ts.map Json.string)) [] 9)
        (Plain.run ⟨utf8 "a.fs", .ok source, Settings.standard⟩ ⟨Text.unlines ts, none⟩ false
          9) := by
  intro source ts
  have hchars : source = Text.ofChars "read x; print x;".toList := by decide
  have hsource : source.trim ≠ [] := by
    rw [hchars, Text.trim, Rune.runes_ofChars]
    decide
  have hnil : Text.runes [] = [] := Rune.runes_ofChars []
  have hmode : ReturnMode.parse? [] = some .discard := by
    simp [ReturnMode.parse?, Text.optionWord, Text.trim, Text.lower, hnil, trimBoth, Text.ofRunes]
  have hutf8 : ∀ t ∈ ts, ∃ cs, t = Text.ofChars cs :=
    List.forall_mem_cons.2 ⟨⟨"seven".toList, by decide⟩,
      List.forall_mem_singleton.2 ⟨"not read".toList, by decide⟩⟩
  have hts : ∀ t ∈ ts, IsLine t := by decide
  obtain ⟨hjson, hagree, -⟩ := bridge_agrees_with_plain hsource hmode hutf8 hts
  exact ⟨⟨hsource, hmode, hts⟩, hagree _ 9 hjson⟩

end Scriptlet
