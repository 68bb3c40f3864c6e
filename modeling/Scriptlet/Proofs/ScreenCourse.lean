import Mathlib.Data.List.Induction
import Scriptlet.Proofs.EventAgreement
import Scriptlet.Proofs.Staging

/-!
# Scriptlet.Proofs.ScreenCourse — what holds of a screen in the course of its messages

A screen is told of one run after the other: that it began, what it says and asks, and that it is
over.  A `Course` is a sequence of messages that keeps to this order, with keys and changes of size
anywhere between them, except that nobody presses the restart key while a run is being started and
that a run that waits for an answer says nothing.  Main statement: in such a course the fields of a
screen stay in step with each other, every request is answered at most once, and lines are only
added, until a restart (`Screen.consistent_of_course`).  A theatre of patient people and a stage keep
to such a course (`Theatre.Reachable.exists_course`, `Stage.Performed.exists_course`).
-/

namespace Scriptlet

/-! ### Focus of the text field -/

namespace TextField

@[simp] theorem focused_erase (f : TextField) (first last : Nat) :
    (f.erase first last).focused = f.focused := rfl

@[simp] theorem focused_insert (f : TextField) (typed : List Char) :
    (f.insert typed).focused = f.focused := by
  unfold insert
  dsimp only
  split <;> simp

@[simp] theorem focused_retreatBlanks (n : Nat) (f : TextField) :
    (retreatBlanks n f).focused = f.focused := by
  fun_induction retreatBlanks n f <;> simp_all

@[simp] theorem focused_retreatWord (n : Nat) (f : TextField) :
    (retreatWord n f).focused = f.focused := by
  fun_induction retreatWord n f <;> simp_all

@[simp] theorem focused_advanceWhile (blank : Bool) (n : Nat) (f : TextField) :
    (advanceWhile blank n f).focused = f.focused := by
  fun_induction advanceWhile blank n f <;> simp_all

@[simp] theorem focused_returnWhile (blank : Bool) (n : Nat) (f : TextField) :
    (returnWhile blank n f).focused = f.focused := by
  fun_induction returnWhile blank n f <;> simp_all

@[simp] theorem focused_eraseWordBackward (f : TextField) :
    f.eraseWordBackward.focused = f.focused := by
  unfold eraseWordBackward
  dsimp only
  split <;> simp

@[simp] theorem focused_eraseWordForward (f : TextField) :
    f.eraseWordForward.focused = f.focused := by
  unfold eraseWordForward
  dsimp only
  split <;> simp

@[simp] theorem focused_edit (f : TextField) (e : Edit) : (f.edit e).focused = f.focused := by
  cases e <;> simp only [edit, wordForward, wordBackward] <;> (try split) <;> simp

/-- Keys change what is in a field, and not whether it has the focus. -/
@[simp] theorem focused_press (f : TextField) (key : Key) : (f.press key).focused = f.focused := by
  unfold press
  split <;> simp

end TextField

/-! ### Courses of messages -/

/-- How far the last run has come, as far as a screen has been told. -/
inductive Progress where
  /-- It is being started. -/
  | starting
  /-- It has begun. -/
  | live
  /-- Its result has been shown. -/
  | finished
  deriving DecidableEq, Repr

namespace Progress

/-- Whether a message may come next.  The restart key may not be pressed while a run is being
started, and a run says something only after its beginning and before its end, and while no request
is pending. -/
def Admits (p : Progress) (s : Screen) : Message → Prop
  | .resize _ _ => True
  | .key key => p = starting → key ≠ .typed ['r']
  | .started _ => p = starting
  | .output _ | .request _ _ | .done _ => p = live ∧ s.pending = none

/-- How far the last run has come after a message, to which the screen reacted with a command. -/
def next (p : Progress) (command : Option Command) : Message → Progress
  | .started _ => live
  | .done _ => finished
  | .resize _ _ | .key _ | .output _ | .request _ _ => if command = some .start then starting else p

end Progress

/-- A message, with the screen that it came to. -/
structure Turn where
  screen : Screen
  message : Message

/-- How the screen reacted. -/
def Turn.reaction (x : Turn) : Screen.Reaction := x.screen.update x.message

/-- The screen `s` is what the turns `xs` have made of a new screen, while the last run has come
as far as `p`. -/
inductive Course (path : Text) : (xs : List Turn) → (s : Screen) → (p : Progress) → Prop where
  | opening : Course path [] { path } .starting
  | step {xs : List Turn} {s : Screen} {p : Progress} (h : Course path xs s p) {m : Message}
      (hadmits : p.Admits s m) :
    Course path (xs ++ [⟨s, m⟩]) (s.update m).screen (p.next (s.update m).command m)

/-- The last turn of a course. -/
theorem Course.last {path : Text} {xs : List Turn} {x : Turn} {s : Screen} {p : Progress}
    (h : Course path (xs ++ [x]) s p) :
    ∃ p', Course path xs x.screen p' ∧ p'.Admits x.screen x.message ∧ s = x.reaction.screen := by
  generalize hall : xs ++ [x] = all at h
  cases h with
  | opening => exact absurd hall (List.concat_ne_nil x xs)
  | step h hadmits =>
    obtain ⟨rfl, hlast⟩ := List.append_inj' hall rfl
    obtain rfl := List.head_eq_of_cons_eq hlast
    exact ⟨_, h, hadmits, rfl⟩

/-! ### Fields in step -/

namespace Screen

/-- The fields of a screen agree with each other and with how far the last run has come. -/
structure InStep (s : Screen) (p : Progress) : Prop where
  running : s.running = true ↔ p = .live
  pending : ∀ q, s.pending = some q →
    p = .live ∧ s.field.focused = true ∧ s.status = .reading q.request.name
  idle : s.pending = none → s.field.focused = false ∧ s.field.value = []

/-- While a run is not live, nothing is pending. -/
theorem InStep.pending_eq_none {s : Screen} {p : Progress} (h : s.InStep p) (hp : p ≠ .live) :
    s.pending = none := by
  cases hpending : s.pending with
  | none => rfl
  | some q => exact absurd (h.pending q hpending).1 hp

theorem InStep.key {s : Screen} {p : Progress} (h : s.InStep p) (key : Key) :
    (s.press key).screen.InStep (p.next (s.press key).command (.key key)) := by
  have hreacts := s.reacts_press key
  generalize s.press key = r at hreacts ⊢
  cases hreacts with
  | moved _ viewport _ hcommand =>
    obtain rfl | rfl := hcommand <;> exact ⟨h.running, h.pending, h.idle⟩
  | restarted hpending hrunning =>
    refine ⟨⟨fun hrun => ?_, fun hp => ?_⟩, fun q hq => ?_, h.idle⟩
    · cases hrunning.symm.trans hrun
    · cases hp
    · cases hpending.symm.trans hq
  | edited hpending _ =>
    obtain ⟨hp, hfocused, hstatus⟩ := h.pending _ hpending
    refine ⟨h.running, fun q hq => ⟨hp, ?_, ?_⟩, fun hnone => ?_⟩
    · exact (TextField.focused_press _ _).trans hfocused
    · cases hpending.symm.trans hq
      exact hstatus
    · cases hpending.symm.trans hnone
  | @answered q _ hpending _ =>
    have hnext : p.next (s.submit q).command (.key key) = p := if_neg s.awaitRun_ne_start
    rw [hnext]
    exact ⟨h.running, nofun, fun _ => ⟨by simp [submit], by simp [submit]⟩⟩

theorem InStep.update {s : Screen} {p : Progress} (h : s.InStep p) {m : Message}
    (hadmits : p.Admits s m) : (s.update m).screen.InStep (p.next (s.update m).command m) := by
  cases m with
  | resize width height => exact ⟨h.running, h.pending, h.idle⟩
  | started run =>
    have hpending := h.pending_eq_none (by rw [show p = .starting from hadmits]; exact nofun)
    refine ⟨⟨fun _ => rfl, fun _ => rfl⟩, fun q hq => ?_, h.idle⟩
    cases hpending.symm.trans hq
  | output text =>
    have hnext : p.next (s.update (.output text)).command (.output text) = p :=
      if_neg s.awaitRun_ne_start
    rw [hnext]
    exact ⟨h.running, h.pending, h.idle⟩
  | request request asker =>
    obtain ⟨hp, -⟩ := hadmits
    refine ⟨h.running, fun q hq => ?_, nofun⟩
    cases hq
    exact ⟨hp, rfl, rfl⟩
  | done failure =>
    obtain ⟨-, hpending⟩ := hadmits
    have hvalue := (h.idle hpending).2
    cases failure <;> exact ⟨⟨nofun, nofun⟩, nofun, fun _ => ⟨rfl, hvalue⟩⟩
  | key key => exact h.key key

theorem inStep_of_course {path : Text} {xs : List Turn} {s : Screen} {p : Progress}
    (h : Course path xs s p) : s.InStep p := by
  induction h with
  | opening => exact ⟨⟨nofun, nofun⟩, nofun, fun _ => ⟨rfl, rfl⟩⟩
  | step _ hadmits ih => exact ih.update hadmits

/-! ### Lines -/

/-- A message adds lines or none, except that the restart key takes them all away after the end of
the last run. -/
theorem InStep.lines {s : Screen} {p : Progress} (h : s.InStep p) {m : Message}
    (hadmits : p.Admits s m) :
    s.lines <+: (s.update m).screen.lines ∨
      m = .key (.typed ['r']) ∧ p = .finished ∧ (s.update m).screen.lines = [] := by
  cases m with
  | resize _ _ | started _ | request _ _ => exact .inl List.prefix_rfl
  | output text => exact .inl (List.prefix_append _ _)
  | done failure =>
    cases failure with
    | none => exact .inl List.prefix_rfl
    | some message => exact .inl (List.prefix_append _ _)
  | key key =>
    show s.lines <+: (s.press key).screen.lines ∨ _ ∧ _ ∧ (s.press key).screen.lines = []
    have hreacts := s.reacts_press key
    generalize s.press key = r at hreacts ⊢
    cases hreacts with
    | moved _ _ _ _ | edited _ _ => exact .inl List.prefix_rfl
    | answered _ _ => exact .inl (List.prefix_append _ _)
    | restarted _ hrunning =>
      refine .inr ⟨rfl, ?_, rfl⟩
      cases p with
      | starting => exact absurd rfl (hadmits rfl)
      | live => cases hrunning.symm.trans (h.running.2 rfl)
      | finished => rfl

/-! ### Answers -/

end Screen

/-- The answer that an effect gives, and to whom. -/
def Effect.answer? : Effect → Option (Asker × Text)
  | .answer asker text => some (asker, text)
  | .cancel _ => none

/-- The request that a message brings. -/
def Message.request? : Message → Option Pending
  | .request r asker => some ⟨r, asker⟩
  | .resize _ _ | .started _ | .output _ | .done _ | .key _ => none

/-- The answers given in a number of turns. -/
def answersIn (xs : List Turn) : List (Asker × Text) :=
  xs.flatMap fun x => x.reaction.effects.filterMap Effect.answer?

theorem answersIn_concat (xs : List Turn) (x : Turn) :
    answersIn (xs ++ [x]) = answersIn xs ++ x.reaction.effects.filterMap Effect.answer? := by
  simp [answersIn]

theorem Screen.filterMap_cancelRun (s : Screen) : s.cancelRun.filterMap Effect.answer? = [] := by
  unfold cancelRun
  cases s.run <;> rfl

/-- A message without a request leaves what is pending alone, or it is the key that answers it. -/
theorem Screen.answers_update {s : Screen} {p : Progress} {m : Message} (hadmits : p.Admits s m)
    (hm : m.request? = none) :
    ((s.update m).screen.pending = s.pending ∧
        (s.update m).effects.filterMap Effect.answer? = []) ∨
      ∃ q key, s.pending = some q ∧ m = .key key ∧ key.bare = .enter ∧
        (s.update m).screen.pending = none ∧
        (s.update m).effects.filterMap Effect.answer? = [(q.asker, s.field.value)] := by
  cases m with
  | resize _ _ | started _ | output _ => exact .inl ⟨rfl, rfl⟩
  | request _ _ => cases hm
  | done failure =>
    obtain ⟨-, hpending⟩ := hadmits
    rw [hpending]
    cases failure <;> exact .inl ⟨rfl, rfl⟩
  | key key =>
    show ((s.press key).screen.pending = _ ∧ (s.press key).effects.filterMap _ = _) ∨
      ∃ q key', _ ∧ _ ∧ _ ∧ (s.press key).screen.pending = _ ∧
        (s.press key).effects.filterMap _ = _
    have hreacts := s.reacts_press key
    generalize s.press key = r at hreacts ⊢
    cases hreacts with
    | moved _ _ heffects _ =>
      refine .inl ⟨rfl, ?_⟩
      obtain rfl | rfl := heffects
      · rfl
      · exact s.filterMap_cancelRun
    | restarted _ _ => exact .inl ⟨rfl, s.filterMap_cancelRun⟩
    | edited _ _ => exact .inl ⟨rfl, rfl⟩
    | answered hpending henter => exact .inr ⟨_, key, hpending, rfl, henter, rfl, rfl⟩

namespace Course

variable {path : Text} {xs earlier later : List Turn} {x : Turn} {q : Pending} {s : Screen}
  {p : Progress}

/-- Before the first request nothing is pending, and nobody is answered. -/
theorem answers_before (h : Course path xs s p) (hxs : ∀ x ∈ xs, x.message.request? = none) :
    s.pending = none ∧ answersIn xs = [] := by
  induction h with
  | opening => exact ⟨rfl, rfl⟩
  | @step xs s p _ m hadmits ih =>
    obtain ⟨hpending, hanswers⟩ := ih fun x hx => hxs x (List.mem_append_left _ hx)
    have hm : m.request? = none := hxs _ (List.mem_append_right _ (List.mem_singleton_self _))
    rw [answersIn_concat, hanswers]
    obtain ⟨hkept, hnone⟩ | ⟨q, -, hq, -⟩ := Screen.answers_update hadmits hm
    · exact ⟨hkept.trans hpending, hnone⟩
    · cases hpending.symm.trans hq

/-- From one request up to the next, the request is pending until it has been answered once. -/
theorem answers_since (h : Course path (earlier ++ x :: later) s p)
    (hx : x.message.request? = some q) (hlater : ∀ y ∈ later, y.message.request? = none) :
    s.pending = some q ∧ answersIn (x :: later) = [] ∨
      s.pending = none ∧ ∃ y ∈ later, ∃ key, y.screen.pending = some q ∧ y.message = .key key ∧
        key.bare = .enter ∧ answersIn (x :: later) = [(q.asker, y.screen.field.value)] := by
  -- Courses grow at their end, and so does the part after the request.
  induction later using List.reverseRecOn generalizing s p with
  | nil =>
    obtain ⟨-, -, -, rfl⟩ := h.last
    obtain ⟨s₀, m⟩ := x
    cases m with
    | request request asker =>
      cases hx
      exact .inl ⟨rfl, rfl⟩
    | _ => cases hx
  | append_singleton later y ih =>
    rw [← List.cons_append, ← List.append_assoc] at h
    obtain ⟨p', h', hadmits, rfl⟩ := h.last
    have hy := hlater y (List.mem_append_right _ (List.mem_singleton_self y))
    have hstep := Screen.answers_update hadmits hy
    rw [← List.cons_append, answersIn_concat]
    obtain ⟨hpending, hanswers⟩ | ⟨hpending, z, hz, key, hzpending, hzkey, henter, hanswers⟩ :=
      ih h' fun y hy => hlater y (List.mem_append_left _ hy)
    · obtain ⟨hkept, hnone⟩ | ⟨q', key, hq', hkey, henter, hnone, hanswer⟩ := hstep
      · exact .inl ⟨hkept.trans hpending, by rw [hanswers]; exact hnone⟩
      · cases hpending.symm.trans hq'
        refine .inr ⟨hnone, y, List.mem_append_right _ (List.mem_singleton_self y), key, hpending,
          hkey, henter, ?_⟩
        rw [hanswers]
        exact hanswer
    · obtain ⟨hkept, hnone⟩ | ⟨q', -, hq', -⟩ := hstep
      · refine .inr ⟨hkept.trans hpending, z, List.mem_append_left _ hz, key, hzpending, hzkey,
          henter, ?_⟩
        rw [hanswers, Turn.reaction, hnone, List.append_nil]
      · cases hpending.symm.trans hq'

end Course

/-! ### The whole -/

namespace Screen

/-- **A screen stays consistent.**  At every point of a course of messages:

* if a request is pending, a run is on, keys go to the text field, and the status names the request;
* if none is pending, no keys go to the text field, and it is empty;
* while a request is pending, no key but the interrupt closes the screen or restarts the script, and
  the window stays where it is, unless the enter key adds a line and so brings the end into view
  (the alt key makes no difference to these two keys);
* lines are only added at the end, except that the restart key takes them all away, and then the
  result of the last run has been shown;
* from one request on, its own turn included, up to the next at most one answer is given, which goes
  to the one who asked and is what stands in the text field when enter is pressed; before the first
  request none is given. -/
theorem consistent_of_course {path : Text} {xs : List Turn} {s : Screen} {p : Progress}
    (h : Course path xs s p) :
    (∀ q, s.pending = some q → s.running = true ∧ s.field.focused = true ∧
      s.status.label = utf8 "read " ++ q.request.name) ∧
    (s.pending = none → s.field.focused = false ∧ s.field.value = []) ∧
    (∀ q key, s.pending = some q → key.bare ≠ .interrupt →
      (s.update (.key key)).command ≠ some .quit ∧ (s.update (.key key)).command ≠ some .start ∧
      (s.update (.key key)).screen.viewport =
        if key.bare = .enter then
          (s.append (Block.ofText (q.request.prompt ++ s.field.value))).viewport
        else s.viewport) ∧
    (∀ m, p.Admits s m → s.lines <+: (s.update m).screen.lines ∨
      m = .key (.typed ['r']) ∧ p = .finished ∧ (s.update m).screen.lines = []) ∧
    ((∀ x ∈ xs, x.message.request? = none) → answersIn xs = []) ∧
    ∀ earlier x later q, xs = earlier ++ x :: later → x.message.request? = some q →
      (∀ y ∈ later, y.message.request? = none) →
      answersIn (x :: later) = [] ∨
        ∃ y ∈ later, ∃ key, y.screen.pending = some q ∧ y.message = .key key ∧ key.bare = .enter ∧
          answersIn (x :: later) = [(q.asker, y.screen.field.value)] := by
  have hstep := inStep_of_course h
  refine ⟨fun q hq => ?_, hstep.idle, fun q key hq hkey => press_pending hq hkey,
    fun m hadmits => hstep.lines hadmits, fun hxs => (h.answers_before hxs).2, ?_⟩
  · obtain ⟨hp, hfocused, hstatus⟩ := hstep.pending q hq
    exact ⟨hstep.running.2 hp, hfocused, congrArg Status.label hstatus⟩
  · rintro earlier x later q rfl hx hlater
    exact (h.answers_since hx hlater).imp And.right And.right

/-- A run prints a line on a window of one row and asks for `x`. -/
theorem exists_course_asking : ∃ xs x s, Course (utf8 "a.fs") (xs ++ [x]) s .live ∧
    x.message.request? = some ⟨⟨utf8 "x", utf8 "> "⟩, .run 0⟩ ∧
    s.pending = some ⟨⟨utf8 "x", utf8 "> "⟩, .run 0⟩ ∧ s.field.value = [] ∧
    s.lines = [utf8 "a"] ∧ s.viewport = ⟨10, 1, 0, [utf8 "a"]⟩ := by
  have h₀ : Course (utf8 "a.fs") [] _ _ := .opening
  have h₁ := h₀.step (m := .started (some 0)) rfl
  have h₂ := h₁.step (m := .output (utf8 "a")) ⟨rfl, rfl⟩
  have h₃ := h₂.step (m := .resize 10 3) trivial
  have h₄ := h₃.step (m := .request ⟨utf8 "x", utf8 "> "⟩ (.run 0)) ⟨rfl, rfl⟩
  exact ⟨_, _, _, h₄, rfl, rfl, TextField.value_clear _, rfl, by decide⟩

/-- The request is pending, and then answered once. -/
theorem consistent_of_course_asking : ∃ xs x s, Course (utf8 "a.fs") (xs ++ [x]) s .live ∧
    s.running = true ∧ s.field.focused = true ∧ s.status.label = utf8 "read x" ∧
    (s.update (.key (.typed ['q']))).command ≠ some .quit ∧
    (s.update (.key .toStart)).screen.viewport = s.viewport ∧
    ∃ s', Course (utf8 "a.fs") (xs ++ [x] ++ [⟨s, .key .enter⟩]) s' .live ∧
      answersIn [x, ⟨s, .key .enter⟩] = [(.run 0, s.field.value)] := by
  obtain ⟨xs, x, s, h, hrequest, hpending, -⟩ := exists_course_asking
  obtain ⟨hreading, -, hkeys, -⟩ := consistent_of_course h
  obtain ⟨hrunning, hfocused, hstatus⟩ := hreading _ hpending
  refine ⟨xs, x, s, h, hrunning, hfocused, hstatus, ?_, ?_, ?_⟩
  · exact (hkeys _ (.typed ['q']) hpending (by decide)).1
  · exact (hkeys _ .toStart hpending (by decide)).2.2.trans (if_neg (by decide))
  · have henter : s.update (.key .enter) = s.submit ⟨⟨utf8 "x", utf8 "> "⟩, .run 0⟩ :=
      press_enter hpending
    have h' := h.step (m := .key .enter) nofun
    have hnext : Progress.live.next (s.update (.key .enter)).command (.key .enter) = .live := by
      rw [henter]
      exact if_neg s.awaitRun_ne_start
    rw [hnext] at h'
    refine ⟨_, h', ?_⟩
    obtain ⟨-, -, -, -, -, hanswers⟩ := consistent_of_course h'
    obtain hnone | ⟨y, hy, -, -, -, -, hanswer⟩ := hanswers xs x [⟨s, .key .enter⟩] _
      (List.append_assoc _ _ _) hrequest (List.forall_mem_singleton.2 rfl)
    · have hgiven := answersIn_concat [x] ⟨s, .key .enter⟩
      rw [List.singleton_append, hnone, Turn.reaction, henter] at hgiven
      exact absurd hgiven.symm (List.append_ne_nil_of_right_ne_nil _ nofun)
    · obtain rfl := List.mem_singleton.1 hy
      exact hanswer

/-- **Enter scrolls.**  While a request is pending, the enter key moves a window that is full. -/
theorem enter_scrolls_while_pending : ∃ xs s q, Course (utf8 "a.fs") xs s .live ∧
    s.pending = some q ∧ Key.enter.bare ≠ .interrupt ∧
    (s.update (.key .enter)).screen.viewport.offset ≠ s.viewport.offset := by
  obtain ⟨xs, x, s, h, -, hpending, hvalue, hlines, hviewport⟩ := exists_course_asking
  have hkey : Key.enter.bare ≠ .interrupt := by decide
  have hline : Block.ofText (utf8 "> " ++ s.field.value) = utf8 "> " := by
    rw [hvalue, List.append_nil]
    exact Block.ofText_of_not_mem (by decide) (by decide)
  have hmoved : (s.update (.key .enter)).screen.viewport = (s.append (utf8 "> ")).viewport := by
    rw [← hline]
    exact (press_pending hpending hkey).2.2.trans (if_pos rfl)
  refine ⟨_, s, _, h, hpending, hkey, ?_⟩
  rw [hmoved, append, refresh, content]
  simp only [hlines, hviewport]
  decide

end Screen

/-! ### Courses in a theatre and on a stage -/

namespace Theatre

variable {path : Text} {script : Script} {t t' : Theatre} {run : RunId} {event : Event}

/-- The messages that have come to the screen of a theatre are a course.  Whether a run is being
started can be seen from what is in flight. -/
def OnCourse (path : Text) (t : Theatre) : Prop :=
  ∃ xs p, Course path xs t.screen p ∧ (t.Calm ↔ p ≠ .starting)

/-- Nothing has come to the screen. -/
theorem OnCourse.of_screen (h : t.OnCourse path) (hscreen : t'.screen = t.screen)
    (hcalm : t'.Calm ↔ t.Calm) : t'.OnCourse path := by
  obtain ⟨xs, p, hcourse, hp⟩ := h
  exact ⟨xs, p, hscreen ▸ hcourse, hcalm.trans hp⟩

theorem calm_ofCommand {command : Option Command} :
    (∀ f ∈ Flight.ofCommand command, f.isStart = false) ↔ command ≠ some .start := by
  match command with
  | none | some .quit => exact ⟨fun _ => nofun, fun _ => nofun⟩
  | some .start => exact ⟨fun h => absurd (h .start (List.mem_singleton_self _)) nofun, (absurd rfl ·)⟩
  | some (.await run) => exact ⟨fun _ => nofun, fun _ f hf => List.mem_singleton.1 hf ▸ rfl⟩

theorem calm_singleton {g : Flight} (h : t.flights = [g]) : t.Calm ↔ g.isStart = false := by
  rw [Calm, h, List.forall_mem_singleton]

/-- One thing in flight has become another. -/
theorem calm_replace {f g : Flight} (hf : t.flights = [f]) (hg : t'.flights = [g])
    (hstart : g.isStart = f.isStart) : t'.Calm ↔ t.Calm := by
  rw [calm_singleton hf, calm_singleton hg, hstart]

theorem calm_react {message : Message} :
    (t.react message).Calm ↔ t.Calm ∧ (t.screen.update message).command ≠ some .start := by
  show (∀ f ∈ t.flights ++ Flight.ofCommand _, f.isStart = false) ↔ _
  rw [List.forall_mem_append, calm_ofCommand]
  rfl

/-- A message that is about no run. -/
theorem OnCourse.hand (h : t.OnCourse path) {m : Message}
    (hadmits : ∀ p : Progress, (t.Calm ↔ p ≠ .starting) → p.Admits t.screen m)
    (hnext : ∀ (p : Progress) (command : Option Command),
      p.next command m = if command = some .start then .starting else p) :
    (t.react m).OnCourse path := by
  obtain ⟨xs, p, hcourse, hp⟩ := h
  refine ⟨_, _, hcourse.step (hadmits p hp), ?_⟩
  rw [calm_react, hp, hnext]
  split
  · next hstart => exact ⟨fun h => absurd hstart h.2, (absurd rfl ·)⟩
  · next hstart => exact and_iff_left hstart

theorem OnCourse.begin (h : t.OnCourse path) (hf : t.flights = [.started run]) :
    ({ t with flights := [] }.react (.started (some run))).OnCourse path := by
  obtain ⟨xs, p, hcourse, hp⟩ := h
  have hstarting : p = .starting := by
    by_contra hne
    exact absurd ((calm_singleton hf).1 (hp.2 hne)) nofun
  refine ⟨_, _, hcourse.step (m := .started (some run)) hstarting, ?_⟩
  rw [calm_react]
  exact ⟨fun _ => nofun, fun _ => ⟨nofun, nofun⟩⟩

/-- An event comes while its run is on, and while it does not wait for an answer. -/
theorem Phase.running_of_event (h : t.Phase) (hf : t.flights = [.event run event]) :
    t.screen.running = true ∧ t.screen.pending = none := by
  cases h with
  | reporting _ _ _ _ hrunning hpending _ => exact ⟨hrunning, hpending⟩
  | starting hf' _ _ _ _ | launched hf' _ _ _ _ _ | awaiting hf' _ _ _ _ _
  | resting hf' _ _ _ _ | idle hf' _ _ _ _ _ => cases hf'.symm.trans hf

theorem OnCourse.report (h : t.OnCourse path) (hphase : t.Phase)
    (hf : t.flights = [.event run event]) :
    (({ t with flights := [] }.react (Stage.report run event)).note run event).OnCourse path := by
  obtain ⟨xs, p, hcourse, -⟩ := h
  obtain ⟨hrunning, hpending⟩ := hphase.running_of_event hf
  -- That the run is on says by itself how far the course has come.
  obtain rfl : p = .live := (Screen.inStep_of_course hcourse).running.1 hrunning
  have hstart := t.screen.command_report_ne_start run event
  have hadmits : Progress.live.Admits t.screen (Stage.report run event) := by
    unfold Stage.report
    split <;> exact ⟨rfl, hpending⟩
  have hnext : Progress.live.next (t.screen.update (Stage.report run event)).command
      (Stage.report run event) ≠ .starting := by
    generalize (t.screen.update (Stage.report run event)).command = command at hstart
    unfold Stage.report
    split <;> simp [Progress.next, hstart]
  have hcalm : ({ t with flights := [] }.react (Stage.report run event)).Calm :=
    calm_react.2 ⟨nofun, hstart⟩
  exact ⟨_, _, hcourse.step hadmits, fun _ => hnext, fun _ => hcalm⟩

theorem OnCourse.step {o : Occurrence} (h : t.OnCourse path) (hphase : t.Phase)
    (hpatient : t.Patient o) (hstep : t.Step o t') : t'.OnCourse path := by
  cases hstep with
  | key key =>
    refine h.hand (fun p hp hstarting hkey => ?_) fun _ _ => rfl
    exact hp.1 (hpatient (congrArg Occurrence.key hkey)) hstarting
  | resize width height => exact h.hand (fun _ _ => trivial) fun _ _ => rfl
  | launch n hflights =>
    obtain ⟨rfl, rfl, hf⟩ := hphase.flights_eq hflights
    exact h.of_screen rfl (calm_replace hf rfl rfl)
  | begin hflights =>
    obtain ⟨rfl, rfl, hf⟩ := hphase.flights_eq hflights
    exact h.begin hf
  | receive hflights hworker hchannel =>
    obtain ⟨rfl, rfl, hf⟩ := hphase.flights_eq hflights
    exact h.of_screen rfl (calm_replace hf rfl rfl)
  | close hflights hworker hover hchannel =>
    obtain ⟨rfl, rfl, hf⟩ := hphase.flights_eq hflights
    exact h.of_screen rfl (iff_of_true nofun ((calm_singleton hf).2 rfl))
  | report hflights =>
    obtain ⟨rfl, rfl, hf⟩ := hphase.flights_eq hflights
    exact h.report hphase hf
  | work hworker hstep => exact h.of_screen rfl Iff.rfl

/-- **Patient people keep to a course.**  As long as nobody presses the restart key while a run is
being started, the messages that come to the screen of a theatre are a course. -/
theorem Reachable.exists_course (h : Reachable script Patient t) :
    ∃ xs p, Course script.path xs t.screen p := by
  have honCourse : t.OnCourse script.path := by
    induction h with
    | opening => exact ⟨[], _, .opening, (calm_singleton rfl).trans ⟨nofun, (absurd rfl ·)⟩⟩
    | step h hpatient hstep ih => exact ih.step h.phase.1 hpatient hstep
  obtain ⟨xs, p, hcourse, -⟩ := honCourse
  exact ⟨xs, p, hcourse⟩

end Theatre

/-- Whatever is done on a stage, the messages that come to its screen are a course. -/
theorem Stage.Performed.exists_course {script : Script} {s : Stage} (h : Performed script s) :
    ∃ xs p, Course script.path xs s.screen p := by
  obtain ⟨t, hreach, hmatches⟩ := h.exists_theatre
  rw [← hmatches.screen]
  exact hreach.exists_course

end Scriptlet
