import Scriptlet.Proofs.Encoding
import Scriptlet.Proofs.JsonTexts

/-!
# Scriptlet.Proofs.JsonValues — what is written in JSON can be read back

`Json.read?` reads a JSON text: `null`, truth values, strings, arrays and objects, with white space
wherever JSON has it.  Numbers are left out, since no number is ever written.

`Writes n t v` says that the text `t` is a way to write the value `v`, nested at most `n` deep.  It
holds of what the encoder makes: of a string, whatever characters are in it, and of an array and an
object if it holds of their parts.
-/

namespace Scriptlet

namespace Json

/-- A JSON value.  The members of an object stand in the order of the text. -/
inductive Value where
  | null
  | bool (b : Bool)
  | text (t : Text)
  | list (items : List Value)
  | object (members : List (Text × Value))

/-! ### Reading -/

section Reader

variable {α : Type}

/-- The values that are words. -/
def words : List (String × Value) := [("null", .null), ("true", .bool true), ("false", .bool false)]

/-- A value that is a word, and the runes after it. -/
def word? (rs : List Rune) : Option (Value × List Rune) :=
  words.findSome? fun (word, v) =>
    if (word.toList.map Rune.scalar).isPrefixOf rs then some (v, rs.drop word.length) else none

/-- Items with commas between them up to the character `close`, and the runes after it.  The number
bounds how many there are. -/
def sequence? (item? : List Rune → Option (α × List Rune)) (close : Char) :
    Nat → List Rune → Option (List α × List Rune)
  | 0, _ => none
  | n + 1, rs => do
    let (a, rs) ← item? rs
    match skipSpace rs with
    | .scalar c :: rest =>
      if c = ',' then do
        let (as, rest) ← sequence? item? close n rest
        return (a :: as, rest)
      else if c = close then return ([a], rest)
      else none
    | _ => none

/-- As before, and there may be no items. -/
def bracketed? (item? : List Rune → Option (α × List Rune)) (close : Char) (rs : List Rune) :
    Option (List α × List Rune) :=
  match skipSpace rs with
  | .scalar c :: rest => if c = close then some ([], rest) else sequence? item? close rs.length rs
  | _ => none

/-- The rest of a string after its opening quote, and the runes after it. -/
def text? (rs : List Rune) : Option (Text × List Rune) := do
  let (us, rest) ← stringParts? rs
  return (Text.ofChars (characters none us), rest)

/-- A member of an object, whose value is read by `item?`. -/
def member? (item? : List Rune → Option (α × List Rune)) (rs : List Rune) :
    Option ((Text × α) × List Rune) :=
  match skipSpace rs with
  | .scalar '"' :: rs => do
    let (key, rs) ← text? rs
    match skipSpace rs with
    | .scalar ':' :: rs => do
      let (a, rest) ← item? rs
      return ((key, a), rest)
    | _ => none
  | _ => none

/-- A value, nested at most so deep, and the runes after it. -/
def value? : Nat → List Rune → Option (Value × List Rune)
  | 0, _ => none
  | n + 1, rs =>
    match skipSpace rs with
    | .scalar '"' :: rs => (text? rs).map fun (t, rest) => (.text t, rest)
    | .scalar '[' :: rs => (bracketed? (value? n) ']' rs).map fun (vs, rest) => (.list vs, rest)
    | .scalar '\x7b' :: rs =>
      (bracketed? (member? (value? n)) '\x7d' rs).map fun (ms, rest) => (.object ms, rest)
    | rs => word? rs

/-- The value that a JSON text denotes.  It is nested no deeper than the text is long. -/
def read? (t : Text) : Option Value := do
  let (v, rest) ← value? t.length t.runes
  if (skipSpace rest).isEmpty then some v else none

end Reader

/-! ### Arrays and objects -/

section Sequences

variable {α β : Type} {item? : List Rune → Option (α × List Rune)} {text : β → Text} {val : β → α}

theorem runes_utf8 (s : String) : (utf8 s).runes = s.toList.map .scalar := by
  rw [Text.utf8_eq_ofChars, Rune.runes_ofChars]

theorem isUtf8_join {ts : List Text} (h : ∀ t ∈ ts, t.IsUtf8) :
    (Text.join (utf8 ",") ts).IsUtf8 := by
  fun_induction Text.join (utf8 ",") ts with
  | case1 => exact Text.isUtf8_nil
  | case2 t => exact h t List.mem_cons_self
  | case3 t u ts ih =>
    have ht : t.IsUtf8 := h t List.mem_cons_self
    exact (ht.append (Text.isUtf8_utf8 _)).append (ih fun w hw => h w (List.mem_cons_of_mem _ hw))

theorem runes_join_cons {t u : Text} {ts : List Text} (h : ∀ w ∈ t :: u :: ts, w.IsUtf8) :
    (Text.join (utf8 ",") (t :: u :: ts)).runes =
      t.runes ++ .scalar ',' :: (Text.join (utf8 ",") (u :: ts)).runes := by
  obtain ⟨ht, hts⟩ := List.forall_mem_cons.1 h
  have hcomma := Text.isUtf8_utf8 ","
  rw [Text.join, (ht.append hcomma).runes_append (isUtf8_join hts), ht.runes_append hcomma,
    runes_utf8, List.append_assoc]
  rfl

/-- There are at least as many runes as texts. -/
theorem length_le_runes_join {ts : List Text} (h : ∀ t ∈ ts, t.IsUtf8)
    (hne : ∀ t ∈ ts, t.runes ≠ []) : ts.length ≤ (Text.join (utf8 ",") ts).runes.length := by
  induction ts with
  | nil => exact Nat.zero_le _
  | cons t ts ih =>
    have hpos : 0 < t.runes.length := List.length_pos_iff.2 (hne t List.mem_cons_self)
    cases ts with
    | nil => exact hpos
    | cons u ts =>
      have hrest := ih (fun w hw => h w (List.mem_cons_of_mem _ hw))
        fun w hw => hne w (List.mem_cons_of_mem _ hw)
      rw [runes_join_cons h]
      simp only [List.length_append, List.length_cons] at hrest ⊢
      omega

theorem skipSpace_of_not {c : Char} (h : isSpace (.scalar c) = false) (rest : List Rune) :
    skipSpace (.scalar c :: rest) = .scalar c :: rest :=
  List.dropWhile_cons_of_neg (by simp [h])

/-- Texts that `item?` reads, put together with commas, are read one after the other.  Each `w` is
written as `text w` and read as `val w`. -/
theorem sequence?_join {close : Char} (hcomma : close ≠ ',')
    (hspace : isSpace (.scalar close) = false) {ws : List β} (hne : ws ≠ [])
    (hutf8 : ∀ w ∈ ws, (text w).IsUtf8)
    (hread : ∀ w ∈ ws, ∀ rest, item? ((text w).runes ++ rest) = some (val w, rest)) {n : Nat}
    (hn : ws.length ≤ n) (rest : List Rune) :
    sequence? item? close n
        ((Text.join (utf8 ",") (ws.map text)).runes ++ .scalar close :: rest) =
      some (ws.map val, rest) := by
  induction ws generalizing n with
  | nil => exact absurd rfl hne
  | cons w ws ih =>
    obtain ⟨n, rfl⟩ := Nat.exists_eq_add_of_le' (Nat.le_of_add_left_le hn)
    obtain ⟨hw, hread'⟩ := List.forall_mem_cons.1 hread
    cases ws with
    | nil =>
      show (item? ((text w).runes ++ .scalar close :: rest) >>= _) = _
      rw [hw]
      show (match skipSpace (.scalar close :: rest) with
        | .scalar c :: rest => _
        | _ => none) = _
      rw [skipSpace_of_not hspace]
      dsimp only
      rw [if_neg hcomma, if_pos rfl]
      rfl
    | cons u ws =>
      have hutf8' : ∀ t ∈ (w :: u :: ws).map text, t.IsUtf8 := List.forall_mem_map.2 hutf8
      have hrest := ih (List.cons_ne_nil _ _) (fun v hv => hutf8 v (List.mem_cons_of_mem _ hv))
        hread' (Nat.le_of_succ_le_succ hn)
      rw [List.map_cons, List.map_cons] at hutf8' hrest
      rw [List.map_cons, List.map_cons, runes_join_cons hutf8', List.append_assoc]
      show (item? ((text w).runes ++ .scalar ',' :: (_ ++ .scalar close :: rest)) >>= _) = _
      rw [hw]
      show (sequence? item? close n (_ ++ .scalar close :: rest) >>= _) = _
      rw [hrest]
      rfl

/-- The runes begin with a character that is neither white space nor `close`. -/
def Opens (close : Char) (rs : List Rune) : Prop :=
  ∃ c rest, rs = .scalar c :: rest ∧ isSpace (.scalar c) = false ∧ c ≠ close

theorem Opens.append {close : Char} {rs : List Rune} (h : Opens close rs) (more : List Rune) :
    Opens close (rs ++ more) := by
  obtain ⟨c, rest, rfl, hspace, hclose⟩ := h
  exact ⟨c, rest ++ more, rfl, hspace, hclose⟩

theorem opens_join {close : Char} {t : Text} {ts : List Text} (h : Opens close t.runes)
    (hutf8 : ∀ u ∈ t :: ts, u.IsUtf8) : Opens close (Text.join (utf8 ",") (t :: ts)).runes := by
  cases ts with
  | nil => exact h
  | cons u ts =>
    rw [runes_join_cons hutf8]
    exact h.append _

theorem bracketed?_of_opens {close : Char} {rs : List Rune} (h : Opens close rs) :
    bracketed? item? close rs = sequence? item? close rs.length rs := by
  obtain ⟨c, rest, rfl, hspace, hclose⟩ := h
  rw [bracketed?, skipSpace_of_not hspace]
  exact if_neg hclose

theorem bracketed?_join {close : Char} (hcomma : close ≠ ',')
    (hspace : isSpace (.scalar close) = false) {ws : List β}
    (hutf8 : ∀ w ∈ ws, (text w).IsUtf8) (hopens : ∀ w ∈ ws, Opens close (text w).runes)
    (hread : ∀ w ∈ ws, ∀ rest, item? ((text w).runes ++ rest) = some (val w, rest))
    (rest : List Rune) :
    bracketed? item? close
        ((Text.join (utf8 ",") (ws.map text)).runes ++ .scalar close :: rest) =
      some (ws.map val, rest) := by
  have hutf8' : ∀ t ∈ ws.map text, t.IsUtf8 := List.forall_mem_map.2 hutf8
  have hne : ∀ t ∈ ws.map text, t.runes ≠ [] := by
    refine List.forall_mem_map.2 fun w hw => ?_
    obtain ⟨c, rest, hrunes, -⟩ := hopens w hw
    rw [hrunes]
    exact List.cons_ne_nil _ _
  have hlength := length_le_runes_join hutf8' hne
  rw [List.length_map] at hlength
  cases ws with
  | nil =>
    have hnil : (Text.join (utf8 ",") []).runes = [] := Rune.runes_ofChars []
    rw [List.map_nil, hnil, List.nil_append, bracketed?, skipSpace_of_not hspace]
    exact if_pos rfl
  | cons w ws =>
    have hjoin : Opens close (Text.join (utf8 ",") ((w :: ws).map text)).runes :=
      opens_join (hopens w List.mem_cons_self) hutf8'
    rw [bracketed?_of_opens (hjoin.append _)]
    refine sequence?_join hcomma hspace (List.cons_ne_nil _ _) hutf8 hread ?_ rest
    rw [List.length_append]
    omega

end Sequences

/-! ### Values -/

/-- The text `t` is a way to write `v`, nested at most `n` deep. -/
structure Writes (n : Nat) (t : Text) (v : Value) : Prop where
  isUtf8 : t.IsUtf8
  opens : Opens ']' t.runes
  read : ∀ rest, value? n (t.runes ++ rest) = some (v, rest)

theorem runes_between (front back : String) {t : Text} (h : t.IsUtf8) :
    (utf8 front ++ t ++ utf8 back).runes =
      front.toList.map .scalar ++ (t.runes ++ back.toList.map .scalar) := by
  have hfront := Text.isUtf8_utf8 front
  have hback := Text.isUtf8_utf8 back
  rw [(hfront.append h).runes_append hback, hfront.runes_append h, runes_utf8, runes_utf8,
    List.append_assoc]

theorem isUtf8_between (front back : String) {t : Text} (h : t.IsUtf8) :
    (utf8 front ++ t ++ utf8 back).IsUtf8 :=
  ((Text.isUtf8_utf8 front).append h).append (Text.isUtf8_utf8 back)

variable {n : Nat}

theorem writes_null : Writes (n + 1) (utf8 "null") .null := by
  refine ⟨Text.isUtf8_utf8 _, ?_, fun rest => ?_⟩
  · rw [runes_utf8]
    exact ⟨'n', _, rfl, rfl, by decide⟩
  · rw [runes_utf8]
    rfl

theorem writes_true : Writes (n + 1) (utf8 "true") (.bool true) := by
  refine ⟨Text.isUtf8_utf8 _, ?_, fun rest => ?_⟩
  · rw [runes_utf8]
    exact ⟨'t', _, rfl, rfl, by decide⟩
  · rw [runes_utf8]
    rfl

/-- A string after its opening quote. -/
theorem exists_runes_string {t : Text} (h : t.IsUtf8) : ∃ rs, (string t).runes = .scalar '"' :: rs ∧
    ∀ rest, text? (rs ++ rest) = some (t, rest) := by
  obtain ⟨cs, rfl⟩ := h
  refine ⟨(cs.flatMap escape ++ ['"']).map .scalar, ?_, fun rest => ?_⟩
  · rw [string_ofChars, Rune.runes_ofChars]
    rfl
  · obtain ⟨us, hus, hcs⟩ := stringParts?_escapes cs rest
    rw [List.map_append, List.append_assoc]
    show (stringParts? (_ ++ .scalar '"' :: rest) >>= _) = _
    rw [hus]
    simp [hcs]

theorem isUtf8_string (t : Text) : (string t).IsUtf8 := isUtf8_between _ _ (Text.isUtf8_ofChars _)

theorem writes_string {t : Text} (h : t.IsUtf8) : Writes (n + 1) (string t) (.text t) := by
  obtain ⟨rs, hrunes, htext⟩ := exists_runes_string h
  refine ⟨isUtf8_string t, ?_, fun rest => ?_⟩
  · rw [hrunes]
    exact ⟨'"', rs, rfl, rfl, by decide⟩
  · rw [hrunes]
    show (text? (rs ++ rest)).map _ = _
    rw [htext]
    rfl

theorem writes_array {ws : List (Text × Value)} (h : ∀ w ∈ ws, Writes n w.1 w.2) :
    Writes (n + 1) (array (ws.map (·.1))) (.list (ws.map (·.2))) := by
  have hutf8 : ∀ w ∈ ws, w.1.IsUtf8 := fun w hw => (h w hw).isUtf8
  have hopens : ∀ w ∈ ws, Opens ']' w.1.runes := fun w hw => (h w hw).opens
  have hjoin : (Text.join (utf8 ",") (ws.map (·.1))).IsUtf8 :=
    isUtf8_join (List.forall_mem_map.2 hutf8)
  refine ⟨isUtf8_between _ _ hjoin, ?_, fun rest => ?_⟩
  · rw [array, runes_between _ _ hjoin]
    exact ⟨'[', _, rfl, rfl, by decide⟩
  · rw [array, runes_between _ _ hjoin, List.append_assoc, List.append_assoc]
    show (bracketed? (value? n) ']' (_ ++ .scalar ']' :: rest)).map _ = _
    rw [bracketed?_join (by decide) rfl hutf8 hopens fun w hw => (h w hw).read]
    rfl

/-- The text of a member. -/
def memberText (key : String) (t : Text) : Text := string (utf8 key) ++ utf8 ":" ++ t

theorem isUtf8_memberText (key : String) {t : Text} (h : t.IsUtf8) : (memberText key t).IsUtf8 :=
  ((isUtf8_string _).append (Text.isUtf8_utf8 _)).append h

theorem runes_memberText (key : String) {t : Text} (h : t.IsUtf8) :
    ∃ rs, (memberText key t).runes = .scalar '"' :: (rs ++ .scalar ':' :: t.runes) ∧
      ∀ rest, text? (rs ++ rest) = some (utf8 key, rest) := by
  obtain ⟨rs, hrunes, htext⟩ := exists_runes_string (Text.isUtf8_utf8 key)
  refine ⟨rs, ?_, htext⟩
  have hstring := isUtf8_string (utf8 key)
  have hcolon := Text.isUtf8_utf8 ":"
  rw [memberText, (hstring.append hcolon).runes_append h, hstring.runes_append hcolon, hrunes,
    runes_utf8, List.append_assoc]
  rfl

theorem member?_memberText (key : String) {t : Text} {v : Value} (h : Writes n t v)
    (rest : List Rune) :
    member? (value? n) ((memberText key t).runes ++ rest) = some ((utf8 key, v), rest) := by
  obtain ⟨rs, hrunes, htext⟩ := runes_memberText key h.isUtf8
  rw [hrunes]
  show (text? ((rs ++ .scalar ':' :: t.runes) ++ rest) >>= _) = _
  rw [List.append_assoc, htext]
  show (value? n (t.runes ++ rest) >>= _) = _
  rw [h.read]
  rfl

theorem writes_object {ws : List (String × Text × Value)} (h : ∀ w ∈ ws, Writes n w.2.1 w.2.2) :
    Writes (n + 1) (object (ws.map fun w => (w.1, w.2.1)))
      (.object (ws.map fun w => (utf8 w.1, w.2.2))) := by
  have hobject : object (ws.map fun w => (w.1, w.2.1)) = utf8 "\x7b" ++
      Text.join (utf8 ",") (ws.map fun w => memberText w.1 w.2.1) ++ utf8 "\x7d" := by
    rw [object, List.map_map]
    rfl
  have hutf8 : ∀ w ∈ ws, (memberText w.1 w.2.1).IsUtf8 := fun w hw =>
    isUtf8_memberText w.1 (h w hw).isUtf8
  have hopens : ∀ w ∈ ws, Opens '\x7d' (memberText w.1 w.2.1).runes := by
    intro w hw
    obtain ⟨rs, hrunes, -⟩ := runes_memberText w.1 (h w hw).isUtf8
    exact ⟨'"', _, hrunes, rfl, by decide⟩
  have hjoin : (Text.join (utf8 ",") (ws.map fun w => memberText w.1 w.2.1)).IsUtf8 :=
    isUtf8_join (List.forall_mem_map.2 hutf8)
  rw [hobject]
  refine ⟨isUtf8_between _ _ hjoin, ?_, fun rest => ?_⟩
  · rw [runes_between _ _ hjoin]
    exact ⟨'\x7b', _, rfl, rfl, by decide⟩
  · rw [runes_between _ _ hjoin, List.append_assoc, List.append_assoc]
    show (bracketed? (member? (value? n)) '\x7d' (_ ++ .scalar '\x7d' :: rest)).map _ = _
    rw [bracketed?_join (by decide) rfl hutf8 hopens fun w hw => member?_memberText w.1 (h w hw)]
    rfl

/-- A text that writes a value is read as this value. -/
theorem read?_of_writes {t : Text} {v : Value} (h : Writes t.length t v) :
    read? t = some v := by
  have hread := h.read []
  rw [List.append_nil] at hread
  rw [read?, hread]
  rfl

end Json

end Scriptlet
