import Scriptlet.Proofs.FirstMismatch

/-!
# Scriptlet.Proofs.Concatenation — token lists one after the other

A statement is read without a look at what comes after it, except that a conditional takes an `else`
that follows.  So after the tokens of a program the reader is where it would be at the start of the
input: tokens that do not begin with `else` are then read as by themselves.  The statements are put
together, and an error is the same one, further on by the length of the program (`parse_append`).
-/

namespace Scriptlet

namespace Syntax

/-- What may follow a statement may go on with anything but an `else` of its own. -/
theorem mayFollow_append_of_head {s : Stmt} {ts us : List Token} (hf : s.MayFollow ts)
    (hus : us.head? ≠ some (utf8 "else")) : s.MayFollow (ts ++ us) := by
  intro hlacks
  cases ts with
  | nil => exact hus
  | cons t ts => exact hf hlacks

/-- After a program the reader starts anew, by induction on the statements of the program. -/
theorem programReader_append {p : Program} {ts us : List Token} (hs : p.SpelledBy ts)
    (hw : p.WellFormed) (hus : us.head? ≠ some (utf8 "else")) :
    programReader (ts ++ us) = (programReader us).map (p ++ ·) := by
  induction p generalizing ts with
  | nil =>
    cases hs
    show programReader us = _
    cases programReader us <;> rfl
  | cons s ss ih =>
    cases hs with
    | @cons _ _ t ts hs hf hss =>
      have hfollow := mayFollow_append_of_head hf hus
      rw [List.append_assoc, programReader_of_ok (stmtReader_complete hs hw.1 hfollow),
        ih hss hw.2]
      cases programReader us <;> rfl

/-- A mismatch is found among the tokens that were given. -/
theorem length_rest_of_error {ts : List Token} {m : Mismatch} (h : programReader ts = .error m) :
    m.rest.length ≤ ts.length := by
  obtain ⟨expected, rest⟩ := m
  obtain ⟨pre, hpre, -⟩ := programReader_error h
  show rest.length ≤ ts.length
  rw [hpre, List.length_append]
  omega

end Syntax

/-- **Parsing is compositional.**  Let `ts` be the tokens of a program, and let `us` not begin with
`else`.  If `us` are the tokens of a program, then `ts ++ us` are those of both programs one after
the other.  If `us` has a syntax error, then `ts ++ us` has the same one, at the same token. -/
theorem parse_append {ts us : List Token} {p : Program} (hp : parse ts = .ok p)
    (hus : us.head? ≠ some (utf8 "else")) :
    (∀ q, parse us = .ok q → parse (ts ++ us) = .ok (p ++ q)) ∧
      ∀ e, parse us = .error e →
        parse (ts ++ us) = .error ⟨ts.length + e.position, e.expected, e.actual⟩ := by
  obtain ⟨hw, hs⟩ := Syntax.programReader_sound (parse_eq_ok.1 hp)
  have happend := Syntax.programReader_append hs hw hus
  constructor
  · intro q hq
    rw [parse_eq_ok.1 hq] at happend
    exact parse_eq_ok.2 happend
  · intro e he
    obtain ⟨m, hm, rfl⟩ := parse_eq_error.1 he
    have hlen := Syntax.length_rest_of_error hm
    rw [hm] at happend
    refine parse_eq_error.2 ⟨m, happend, ?_⟩
    have hpos : ts.length + (us.length - m.rest.length) =
        (ts ++ us).length - m.rest.length := by
      rw [List.length_append]
      omega
    rw [hpos]

/-- After a conditional without an `else` branch: a statement, and one that breaks off. -/
theorem parse_append_conditional :
    let ts := ["if", "(", "x", "<", "9", ")", "\x7b", "\x7d"].map utf8
    let us := ["print", "x", ";"].map utf8
    let us' := ["print", "x", ";", "read", "else"].map utf8
    let first : Stmt := .ite ⟨utf8 "x", utf8 "<", utf8 "9"⟩ [] none
    (parse ts = .ok [first] ∧ parse us = .ok [.print (utf8 "x")] ∧
      parse us' = .error ⟨5, .symbol (utf8 ";"), none⟩) ∧
      parse (ts ++ us) = .ok [first, .print (utf8 "x")] ∧
      parse (ts ++ us') = .error ⟨13, .symbol (utf8 ";"), none⟩ := by
  intro ts us us' first
  have hp : parse ts = .ok [first] := rfl
  have hq : parse us = .ok [.print (utf8 "x")] := rfl
  have he : parse us' = .error ⟨5, .symbol (utf8 ";"), none⟩ := rfl
  exact ⟨⟨hp, hq, he⟩, (parse_append hp (by decide)).1 _ hq, (parse_append hp (by decide)).2 _ he⟩

end Scriptlet
