import Scriptlet.Proofs.Tables
import Scriptlet.Run.Interpreter

/-!
# Scriptlet.Proofs.Alphabet — which texts a run is made of

An alphabet is a set of texts that is closed under what a run does with texts: it holds all texts
made of characters, and with some texts also their concatenation and what is in quotes in them.  If
the texts of a program and the answers are in the alphabet, so are all values and complaints.

Here are the steps: what is computed, shown and passed on from values in an alphabet is in it again.
`Alphabet.any` holds all texts, for statements in which texts do not matter.
-/

namespace Scriptlet

theorem Text.utf8_eq_ofChars (s : String) : utf8 s = ofChars s.toList := by
  rw [utf8, ← String.utf8Encode_toList, List.utf8Encode, List.toList_data_toByteArray]
  rfl

/-- A set of texts that a run does not leave. -/
structure Alphabet where
  text : Text → Prop
  ofChars : ∀ cs, text (Text.ofChars cs)
  append : ∀ {t u : Text}, text t → text u → text (t ++ u)
  enclosed : ∀ {t inner : Text}, text t → Token.enclosed? t = some inner → text inner

namespace Alphabet

/-- All texts. -/
def any : Alphabet := ⟨fun _ => True, fun _ => trivial, fun _ _ => trivial, fun _ _ => trivial⟩

theorem utf8 (A : Alphabet) (s : String) : A.text (Scriptlet.utf8 s) :=
  Text.utf8_eq_ofChars s ▸ A.ofChars s.toList

end Alphabet

variable {A : Alphabet}

/-! ### Texts of a program -/

/-- The texts that an expression can make show: what it stands for, and the name of a function that
may be missing. -/
def Expr.texts : Expr → List Text
  | .str t => [t]
  | .call name args => name :: args
  | _ => []

mutual

def Stmt.texts : Stmt → List Text
  | .declare _ value => value.texts
  | .assign _ value => value.texts
  | .print operand => [operand]
  | .read name => [name]
  | .ite _ body none => Program.texts body
  | .ite _ body (some alternative) => Program.texts body ++ Program.texts alternative
  | .while _ body => Program.texts body
  | .for init _ step body => init.texts ++ step.texts ++ Program.texts body
  | .fun _ _ body => Program.texts body
  | .call name args => name :: args
  | .return value => value.texts
  | .absent => []

/-- The texts that a program can make show, in its lines or in a complaint. -/
def Program.texts : Program → List Text
  | [] => []
  | s :: ss => s.texts ++ Program.texts ss

end

/-- The texts of the expression are in the alphabet. -/
def Expr.Over (A : Alphabet) (e : Expr) : Prop := ∀ t ∈ e.texts, A.text t

/-! ### Values -/

namespace Value

/-- A text is in the alphabet; other values have none. -/
def Over (A : Alphabet) : Value → Prop
  | .text t => A.text t
  | _ => True

theorem over_any (v : Value) : v.Over .any := by
  cases v <;> trivial

theorem Over.display {v : Value} (h : v.Over A) : A.text v.display := by
  cases v with
  | undefined => exact A.utf8 _
  | text t => exact h
  | number x =>
    show A.text (Binary64.ofFloat x).display
    cases Binary64.ofFloat x with
    | nan => exact A.utf8 _
    | infinite negative => cases negative <;> exact A.utf8 _
    | finite negative significand exponent =>
      refine A.append ?_ ?_
      · split
        · exact A.utf8 _
        · exact A.ofChars []
      · split
        · exact A.utf8 _
        · exact A.ofChars _

theorem over_binary (op : Token) {v w : Value} (hv : v.Over A) (hw : w.Over A) :
    (Value.binary op v w).Over A := by
  unfold Value.binary
  split
  · next o _ =>
    -- a text comes out of nothing but the addition of a text
    have hjoin : ∀ t : Text, A.text t →
        Value.Over A (if o = .add then .text t else .undefined) := by
      intro t ht
      split
      · exact ht
      · trivial
    have hnumbers : ∀ x y, Value.Over A (o.onNumbers x y) := by
      intro x y
      cases o with
      | div =>
        show Value.Over A (if y == 0 then .undefined else .number (x / y))
        split <;> trivial
      | _ => trivial
    unfold ArithOp.eval
    split
    · exact hnumbers _ _
    · exact hjoin _ (A.append hv hw.display)
    · exact hjoin _ (A.append hv.display hw)
    · trivial
  · trivial

theorem over_ofInput {raw : Text} (h : A.text raw) : (Value.ofInput raw).Over A := by
  unfold Value.ofInput
  split
  · trivial
  · exact h

end Value

/-! ### Frames -/

namespace Frame

variable {f : Frame} {t : Token}

theorem over_operand (h : f.All (Value.Over A)) (t : Token) : (f.operand t).Over A := by
  unfold Frame.operand
  split
  · trivial
  · cases hv : f.get? t with
    | none => trivial
    | some v => exact h t v hv

theorem over_argument (h : f.All (Value.Over A)) (ht : A.text t) : (f.argument t).Over A := by
  unfold Frame.argument
  split
  · next inner hinner => exact A.enclosed ht hinner
  · exact over_operand h t

theorem text_shown (h : f.All (Value.Over A)) (ht : A.text t) : A.text (f.shown t) := by
  unfold Frame.shown
  split
  · next v hv => exact (h t v hv).display
  · exact ht

/-- The frame of a call holds nothing but the values of its arguments. -/
theorem all_ofCall {P : Value → Prop} (params : List Token) {values : List Value}
    (h : ∀ v ∈ values, P v) : (Frame.ofCall params values).All P := by
  have hbind : ∀ (bindings : List (Token × Value)) (f : Frame), (∀ b ∈ bindings, P b.2) →
      f.All P → (bindings.foldl (fun f b => f.set b.1 b.2) f).All P := by
    intro bindings
    induction bindings with
    | nil => exact fun f _ hf => hf
    | cons b bindings ih =>
      intro f hb hf
      obtain ⟨hhead, htail⟩ := List.forall_mem_cons.1 hb
      exact ih (f.set b.1 b.2) htail (hf.set hhead b.1)
  refine hbind _ ∅ (fun b hb => ?_) (Table.all_empty P)
  exact h b.2 (List.of_mem_zip hb).2

end Frame

end Scriptlet
