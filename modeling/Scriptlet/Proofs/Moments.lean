import Scriptlet.Proofs.CallIsolation

/-!
# Scriptlet.Proofs.Moments — a run moment by moment

The interpreter goes through a program by calling itself, and hides in its continuations what is
left to do.  Here a run is taken apart into moments.  A `Moment` says what is being done, in which
frame and with which functions, and what is left to do after it, down to the frames of all callers.
The rules `Moment.Moves` say what comes next: another moment, in silence or after an exchange, or
the end.

There is a rule for every moment (`Moment.exists_moves`).  The moments are those of the interpreter:
`m.dialogue mode` is what the interpreter makes of the moment `m`, by its own functions, and it
begins with the move of `m` (`Moment.Moves.dialogue`).
-/

namespace Scriptlet

/-- What a loop repeats. -/
structure LoopCode where
  cond : Condition
  body : List Stmt
  step : Option Stmt

mutual

/-- What is left to do after a statement or a list of statements.  Bounds and depths are those of
the interpreter. -/
inductive AfterStmt where
  /-- The other statements of the top level. -/
  | top (n : Nat) (ss : List Stmt)
  /-- The other statements of a list. -/
  | list (n depth : Nat) (ss : List Stmt) (rest : AfterStmt)
  /-- The end of a conditional. -/
  | ite (rest : AfterStmt)
  /-- The end of a pass of a loop. -/
  | pass (n depth : Nat) (l : LoopCode) (rest : AfterStmt)
  /-- A loop, after its first part or its step. -/
  | loop (n depth : Nat) (l : LoopCode) (rest : AfterStmt)
  /-- The end of the body of `f`, which was called in the frame `caller`. -/
  | body (n depth : Nat) (f : Function) (caller : Frame) (rest : AfterValue)

/-- What is left to do after an expression or a call. -/
inductive AfterValue where
  /-- Give a variable the value. -/
  | bind (name : Token) (rest : AfterStmt)
  /-- Drop the value. -/
  | drop (rest : AfterStmt)
  /-- Return the value from `f`, which was called in the frame `caller`. -/
  | result (f : Function) (caller : Frame) (rest : AfterValue)

end

/-- What is being done. -/
inductive Work where
  | exec (n depth : Nat) (s : Stmt) (rest : AfterStmt)
  | list (n depth : Nat) (ss : List Stmt) (rest : AfterStmt)
  | loop (n depth : Nat) (l : LoopCode) (rest : AfterStmt)
  | eval (n depth : Nat) (e : Expr) (rest : AfterValue)
  | call (n depth : Nat) (name : Token) (args : List Token) (rest : AfterValue)
  | top (n : Nat) (ss : List Stmt)
  /-- A statement has been executed, or has failed. -/
  | ended (r : Except RunError Completion) (rest : AfterStmt)
  /-- An expression has been evaluated, or has failed. -/
  | valued (r : Except RunError Value) (rest : AfterValue)
  /-- The program has been executed, or has failed. -/
  | finished (r : Except RunError Unit)

/-- A moment of a run. -/
structure Moment where
  work : Work
  state : RunState

/-- The first moment of a program. -/
def Moment.start (p : Program) (n : Nat) : Moment := ⟨.top n p, ⟨∅, ∅⟩⟩

/-- What comes after a moment. -/
inductive Move where
  | silent (next : Moment)
  | say (text : Text) (next : Moment)
  /-- A request for input: what comes after an answer, and without one. -/
  | ask (name : Token) (given : Text → Moment) (refused : InputFault → Moment)
  /-- A look at whether the run has been cancelled: what comes if it has, and if it has not. -/
  | poll (stop go : Moment)
  | done (report : Report)
  | cut

/-! ### Rules -/

/-- The bound on what is being done. -/
def Work.bound? : Work → Option Nat
  | .exec n _ _ _ => some n
  | .list n _ _ _ => some n
  | .loop n _ _ _ => some n
  | .eval n _ _ _ => some n
  | .call n _ _ _ _ => some n
  | _ => none

/-- A loop after the end of a pass: the step comes first, if there is one. -/
def LoopCode.again (l : LoopCode) (n depth : Nat) (rest : AfterStmt) : Work :=
  match l.step with
  | none => .loop n depth l rest
  | some s => .exec n depth s (.loop n depth l rest)

/-- A failure skips what is left to do, and leaves the frame of a call. -/
def AfterStmt.skip (σ : RunState) (e : RunError) : AfterStmt → Moment
  | .top _ _ => ⟨.finished (.error e), σ⟩
  | .list _ _ _ rest => ⟨.ended (.error e) rest, σ⟩
  | .ite rest => ⟨.ended (.error e) rest, σ⟩
  | .pass _ _ _ rest => ⟨.ended (.error e) rest, σ⟩
  | .loop _ _ _ rest => ⟨.ended (.error e) rest, σ⟩
  | .body _ _ _ caller rest => ⟨.valued (.error e) rest, { σ with frame := caller }⟩

def AfterValue.skip (σ : RunState) (e : RunError) : AfterValue → Moment
  | .bind _ rest => ⟨.ended (.error e) rest, σ⟩
  | .drop rest => ⟨.ended (.error e) rest, σ⟩
  | .result _ caller rest => ⟨.valued (.error e) rest, { σ with frame := caller }⟩

namespace Moment

/-- What comes after a moment. -/
inductive Moves (mode : ReturnMode) : Moment → Move → Prop
  | cut {work : Work} {σ : RunState} (h : work.bound? = some 0) : Moves mode ⟨work, σ⟩ .cut
  -- Statements.
  | declare {value : Expr} {n depth : Nat} {name : Token} {rest : AfterStmt} {σ : RunState} :
    Moves mode ⟨.exec (n + 1) depth (.declare name value) rest, σ⟩
      (.silent ⟨.eval n depth value (.bind name rest), σ⟩)
  | assign {value : Expr} {n depth : Nat} {name : Token} {rest : AfterStmt} {σ : RunState} :
    Moves mode ⟨.exec (n + 1) depth (.assign name value) rest, σ⟩
      (.silent ⟨.eval n depth value (.bind name rest), σ⟩)
  | print {operand : Token} {n depth : Nat} {rest : AfterStmt} {σ : RunState} :
    Moves mode ⟨.exec (n + 1) depth (.print operand) rest, σ⟩
      (.say (σ.frame.shown operand) ⟨.ended (.ok .next) rest, σ⟩)
  | read {n depth : Nat} {name : Token} {rest : AfterStmt} {σ : RunState} :
    Moves mode ⟨.exec (n + 1) depth (.read name) rest, σ⟩
      (.ask name
        (fun raw =>
          ⟨.ended (.ok .next) rest, { σ with frame := σ.frame.set name (.ofInput raw) }⟩)
        fun fault => ⟨.ended (.error (.read name fault)) rest, σ⟩)
  | iteTrue {cond : Condition} {body : List Stmt} {alternative : Option (List Stmt)}
      {n depth : Nat} {rest : AfterStmt} {σ : RunState} (h : cond.holds σ.frame = true) :
    Moves mode ⟨.exec (n + 1) depth (.ite cond body alternative) rest, σ⟩
      (.silent ⟨.list n depth body (.ite rest), σ⟩)
  | iteFalse {cond : Condition} {body alternative : List Stmt} {n depth : Nat} {rest : AfterStmt}
      {σ : RunState} (h : cond.holds σ.frame = false) :
    Moves mode ⟨.exec (n + 1) depth (.ite cond body (some alternative)) rest, σ⟩
      (.silent ⟨.list n depth alternative (.ite rest), σ⟩)
  | iteNone {cond : Condition} {body : List Stmt} {n depth : Nat} {rest : AfterStmt}
      {σ : RunState} (h : cond.holds σ.frame = false) :
    Moves mode ⟨.exec (n + 1) depth (.ite cond body none) rest, σ⟩
      (.silent ⟨.ended (.ok .next) rest, σ⟩)
  | while {cond : Condition} {body : List Stmt} {n depth : Nat} {rest : AfterStmt} {σ : RunState} :
    Moves mode ⟨.exec (n + 1) depth (.while cond body) rest, σ⟩
      (.silent ⟨.loop n depth ⟨cond, body, none⟩ rest, σ⟩)
  | for {init step : Stmt} {cond : Condition} {body : List Stmt} {n depth : Nat}
      {rest : AfterStmt} {σ : RunState} :
    Moves mode ⟨.exec (n + 1) depth (.for init cond step body) rest, σ⟩
      (.silent ⟨.exec n depth init (.loop n depth ⟨cond, body, some step⟩ rest), σ⟩)
  | fun {params : List Token} {body : List Stmt} {n depth : Nat} {name : Token} {rest : AfterStmt}
      {σ : RunState} :
    Moves mode ⟨.exec (n + 1) depth (.fun name params body) rest, σ⟩
      (.silent ⟨.ended (.ok .next) rest,
        { σ with functions := σ.functions.set name ⟨params, body⟩ }⟩)
  | call {args : List Token} {n depth : Nat} {name : Token} {rest : AfterStmt} {σ : RunState} :
    Moves mode ⟨.exec (n + 1) depth (.call name args) rest, σ⟩
      (.silent ⟨.call n depth name args (.drop rest), σ⟩)
  | return {value : Expr} {n depth : Nat} {rest : AfterStmt} {σ : RunState} :
    Moves mode ⟨.exec (n + 1) depth (.return value) rest, σ⟩
      (.silent ⟨.ended (.ok (.return value)) rest, σ⟩)
  | absent {n depth : Nat} {rest : AfterStmt} {σ : RunState} :
    Moves mode ⟨.exec (n + 1) depth .absent rest, σ⟩
      (.silent ⟨.ended (.error .unsupportedStatement) rest, σ⟩)
  -- Lists and loops.
  | nil {n depth : Nat} {rest : AfterStmt} {σ : RunState} :
    Moves mode ⟨.list (n + 1) depth [] rest, σ⟩ (.silent ⟨.ended (.ok .next) rest, σ⟩)
  | cons {s : Stmt} {ss : List Stmt} {n depth : Nat} {rest : AfterStmt} {σ : RunState} :
    Moves mode ⟨.list (n + 1) depth (s :: ss) rest, σ⟩
      (.poll ⟨.ended (.error .canceled) rest, σ⟩ ⟨.exec n depth s (.list n depth ss rest), σ⟩)
  | topNil {n : Nat} {σ : RunState} : Moves mode ⟨.top n [], σ⟩ (.silent ⟨.finished (.ok ()), σ⟩)
  | topCons {s : Stmt} {ss : List Stmt} {n : Nat} {σ : RunState} :
    Moves mode ⟨.top n (s :: ss), σ⟩
      (.poll ⟨.finished (.error .canceled), σ⟩ ⟨.exec n 0 s (.top n ss), σ⟩)
  | loopTrue {l : LoopCode} {n depth : Nat} {rest : AfterStmt} {σ : RunState}
      (h : l.cond.holds σ.frame = true) :
    Moves mode ⟨.loop (n + 1) depth l rest, σ⟩
      (.silent ⟨.list n depth l.body (.pass n depth l rest), σ⟩)
  | loopFalse {l : LoopCode} {n depth : Nat} {rest : AfterStmt} {σ : RunState}
      (h : l.cond.holds σ.frame = false) :
    Moves mode ⟨.loop (n + 1) depth l rest, σ⟩ (.silent ⟨.ended (.ok .next) rest, σ⟩)
  -- Expressions.
  | int {i : Int} {n depth : Nat} {after : AfterValue} {σ : RunState} :
    Moves mode ⟨.eval (n + 1) depth (.int i) after, σ⟩ (.silent ⟨.valued (.ok (.ofInt i)) after, σ⟩)
  | str {t : Text} {n depth : Nat} {after : AfterValue} {σ : RunState} :
    Moves mode ⟨.eval (n + 1) depth (.str t) after, σ⟩ (.silent ⟨.valued (.ok (.text t)) after, σ⟩)
  | binary {left op right : Token} {n depth : Nat} {after : AfterValue} {σ : RunState} :
    Moves mode ⟨.eval (n + 1) depth (.binary left op right) after, σ⟩
      (.silent ⟨.valued (.ok (.binary op (σ.frame.operand left) (σ.frame.operand right))) after, σ⟩)
  | callExpr {args : List Token} {n depth : Nat} {name : Token} {after : AfterValue}
      {σ : RunState} :
    Moves mode ⟨.eval (n + 1) depth (.call name args) after, σ⟩
      (.silent ⟨.call n depth name args after, σ⟩)
  | absentExpr {n depth : Nat} {after : AfterValue} {σ : RunState} :
    Moves mode ⟨.eval (n + 1) depth .absent after, σ⟩
      (.silent ⟨.valued (.error .unsupportedExpression) after, σ⟩)
  -- Calls.
  | notFound {args : List Token} {n depth : Nat} {name : Token} {after : AfterValue}
      {σ : RunState} (h : σ.functions.get? name = none) :
    Moves mode ⟨.call (n + 1) depth name args after, σ⟩
      (.silent ⟨.valued (.error (.functionNotFound name)) after, σ⟩)
  | tooDeep {args : List Token} {f : Function} {n depth : Nat} {name : Token} {after : AfterValue}
      {σ : RunState} (h : σ.functions.get? name = some f) (hdepth : maxCallDepth ≤ depth) :
    Moves mode ⟨.call (n + 1) depth name args after, σ⟩
      (.silent ⟨.valued (.error (.callDepth name)) after, σ⟩)
  | enter {args : List Token} {f : Function} {n depth : Nat} {name : Token} {after : AfterValue}
      {σ : RunState} (h : σ.functions.get? name = some f) (hdepth : depth < maxCallDepth) :
    Moves mode ⟨.call (n + 1) depth name args after, σ⟩
      (.silent ⟨.list n (depth + 1) f.body (.body n depth f σ.frame after),
        { σ with frame := .ofCall f.params (args.map σ.frame.argument) }⟩)
  -- After a statement.
  | afterTop {c : Completion} {ss : List Stmt} {n : Nat} {σ : RunState} :
    Moves mode ⟨.ended (.ok c) (.top n ss), σ⟩ (.silent ⟨.top n ss, σ⟩)
  | afterNext {ss : List Stmt} {n depth : Nat} {rest : AfterStmt} {σ : RunState} :
    Moves mode ⟨.ended (.ok .next) (.list n depth ss rest), σ⟩ (.silent ⟨.list n depth ss rest, σ⟩)
  | afterReturn {value : Expr} {ss : List Stmt} {n depth : Nat} {rest : AfterStmt} {σ : RunState} :
    Moves mode ⟨.ended (.ok (.return value)) (.list n depth ss rest), σ⟩
      (.silent ⟨.ended (.ok (.return value)) rest, σ⟩)
  | afterIte {c : Completion} {rest : AfterStmt} {σ : RunState} :
    Moves mode ⟨.ended (.ok c) (.ite rest), σ⟩ (.silent ⟨.ended (.ok (mode.outside c)) rest, σ⟩)
  | passNext {c : Completion} {l : LoopCode} {n depth : Nat} {rest : AfterStmt} {σ : RunState}
      (h : mode.outside c = .next) :
    Moves mode ⟨.ended (.ok c) (.pass n depth l rest), σ⟩
      (.poll ⟨.ended (.error .canceled) rest, σ⟩ ⟨l.again n depth rest, σ⟩)
  | passReturn {c : Completion} {l : LoopCode} {value : Expr} {n depth : Nat} {rest : AfterStmt}
      {σ : RunState} (h : mode.outside c = .return value) :
    Moves mode ⟨.ended (.ok c) (.pass n depth l rest), σ⟩
      (.silent ⟨.ended (.ok (.return value)) rest, σ⟩)
  | afterStep {c : Completion} {l : LoopCode} {n depth : Nat} {rest : AfterStmt} {σ : RunState} :
    Moves mode ⟨.ended (.ok c) (.loop n depth l rest), σ⟩ (.silent ⟨.loop n depth l rest, σ⟩)
  | bodyNext {f : Function} {caller : Frame} {n depth : Nat} {after : AfterValue} {σ : RunState} :
    Moves mode ⟨.ended (.ok .next) (.body n depth f caller after), σ⟩
      (.silent ⟨.valued (.ok .undefined) after, { σ with frame := caller }⟩)
  | bodyReturn {f : Function} {caller : Frame} {value : Expr} {n depth : Nat} {after : AfterValue}
      {σ : RunState} :
    Moves mode ⟨.ended (.ok (.return value)) (.body n depth f caller after), σ⟩
      (.silent ⟨.eval n (depth + 1) value (.result f caller after), σ⟩)
  | failed {e : RunError} {rest : AfterStmt} {σ : RunState} :
    Moves mode ⟨.ended (.error e) rest, σ⟩ (.silent (rest.skip σ e))
  -- After an expression.
  | bind {v : Value} {name : Token} {rest : AfterStmt} {σ : RunState} :
    Moves mode ⟨.valued (.ok v) (.bind name rest), σ⟩
      (.silent ⟨.ended (.ok .next) rest, { σ with frame := σ.frame.set name v }⟩)
  | drop {v : Value} {rest : AfterStmt} {σ : RunState} :
    Moves mode ⟨.valued (.ok v) (.drop rest), σ⟩ (.silent ⟨.ended (.ok .next) rest, σ⟩)
  | result {f : Function} {caller : Frame} {v : Value} {after : AfterValue} {σ : RunState} :
    Moves mode ⟨.valued (.ok v) (.result f caller after), σ⟩
      (.silent ⟨.valued (.ok v) after, { σ with frame := caller }⟩)
  | failedExpr {e : RunError} {after : AfterValue} {σ : RunState} :
    Moves mode ⟨.valued (.error e) after, σ⟩ (.silent (after.skip σ e))
  -- The end.
  | finished {r : Except RunError Unit} {σ : RunState} :
    Moves mode ⟨.finished r, σ⟩ (.done ⟨r, σ.frame, σ.functions⟩)

variable {mode : ReturnMode} {n depth : Nat} {σ : RunState} {rest : AfterStmt} {after : AfterValue}

theorem exists_moves_exec (s : Stmt) :
    ∃ move, Moves mode ⟨.exec (n + 1) depth s rest, σ⟩ move := by
  cases s with
  | declare name value => exact ⟨_, .declare⟩
  | assign name value => exact ⟨_, .assign⟩
  | print operand => exact ⟨_, .print⟩
  | read name => exact ⟨_, .read⟩
  | ite cond body alternative =>
    cases hc : cond.holds σ.frame with
    | true => exact ⟨_, .iteTrue hc⟩
    | false =>
      cases alternative with
      | none => exact ⟨_, .iteNone hc⟩
      | some body' => exact ⟨_, .iteFalse hc⟩
  | «while» cond body => exact ⟨_, .while⟩
  | «for» init cond step body => exact ⟨_, .for⟩
  | «fun» name params body => exact ⟨_, .fun⟩
  | call name args => exact ⟨_, .call⟩
  | «return» value => exact ⟨_, .return⟩
  | absent => exact ⟨_, .absent⟩

theorem exists_moves_eval (e : Expr) :
    ∃ move, Moves mode ⟨.eval (n + 1) depth e after, σ⟩ move := by
  cases e with
  | int i => exact ⟨_, .int⟩
  | str t => exact ⟨_, .str⟩
  | binary left op right => exact ⟨_, .binary⟩
  | call name args => exact ⟨_, .callExpr⟩
  | absent => exact ⟨_, .absentExpr⟩

theorem exists_moves_call (name : Token) (args : List Token) :
    ∃ move, Moves mode ⟨.call (n + 1) depth name args after, σ⟩ move := by
  cases hf : σ.functions.get? name with
  | none => exact ⟨_, .notFound hf⟩
  | some f =>
    by_cases hdepth : maxCallDepth ≤ depth
    · exact ⟨_, .tooDeep hf hdepth⟩
    · exact ⟨_, .enter hf (Nat.lt_of_not_le hdepth)⟩

theorem exists_moves_ended (r : Except RunError Completion) :
    ∃ move, Moves mode ⟨.ended r rest, σ⟩ move := by
  rcases r with e | c
  · exact ⟨_, .failed⟩
  cases rest with
  | top n ss => exact ⟨_, .afterTop⟩
  | list n depth ss rest =>
    cases c with
    | next => exact ⟨_, .afterNext⟩
    | «return» value => exact ⟨_, .afterReturn⟩
  | ite rest => exact ⟨_, .afterIte⟩
  | pass n depth l rest =>
    cases hc : mode.outside c with
    | next => exact ⟨_, .passNext hc⟩
    | «return» value => exact ⟨_, .passReturn hc⟩
  | loop n depth l rest => exact ⟨_, .afterStep⟩
  | body n depth f caller rest =>
    cases c with
    | next => exact ⟨_, .bodyNext⟩
    | «return» value => exact ⟨_, .bodyReturn⟩

theorem exists_moves_valued (r : Except RunError Value) :
    ∃ move, Moves mode ⟨.valued r after, σ⟩ move := by
  rcases r with e | v
  · exact ⟨_, .failedExpr⟩
  cases after with
  | bind name rest => exact ⟨_, .bind⟩
  | drop rest => exact ⟨_, .drop⟩
  | result f caller rest => exact ⟨_, .result⟩

/-- There is a rule for every moment. -/
theorem exists_moves (mode : ReturnMode) (m : Moment) : ∃ move, m.Moves mode move := by
  obtain ⟨work, σ⟩ := m
  by_cases hcut : work.bound? = some 0
  · exact ⟨_, .cut hcut⟩
  cases work with
  | exec n depth s rest =>
    obtain ⟨n, rfl⟩ := Nat.exists_eq_succ_of_ne_zero fun hn => hcut (congrArg some hn)
    exact exists_moves_exec s
  | list n depth ss rest =>
    obtain ⟨n, rfl⟩ := Nat.exists_eq_succ_of_ne_zero fun hn => hcut (congrArg some hn)
    cases ss with
    | nil => exact ⟨_, .nil⟩
    | cons s ss => exact ⟨_, .cons⟩
  | loop n depth l rest =>
    obtain ⟨n, rfl⟩ := Nat.exists_eq_succ_of_ne_zero fun hn => hcut (congrArg some hn)
    cases hc : l.cond.holds σ.frame with
    | true => exact ⟨_, .loopTrue hc⟩
    | false => exact ⟨_, .loopFalse hc⟩
  | eval n depth e rest =>
    obtain ⟨n, rfl⟩ := Nat.exists_eq_succ_of_ne_zero fun hn => hcut (congrArg some hn)
    exact exists_moves_eval e
  | call n depth name args rest =>
    obtain ⟨n, rfl⟩ := Nat.exists_eq_succ_of_ne_zero fun hn => hcut (congrArg some hn)
    exact exists_moves_call name args
  | top n ss =>
    cases ss with
    | nil => exact ⟨_, .topNil⟩
    | cons s ss => exact ⟨_, .topCons⟩
  | ended r rest => exact exists_moves_ended r
  | valued r rest => exact exists_moves_valued r
  | finished r => exact ⟨_, .finished⟩

end Moment

/-! ### What the interpreter makes of a moment -/

/-- The end of a run. -/
def finish : Continuation Report Unit := fun result σ => .done ⟨result, σ.frame, σ.functions⟩

mutual

/-- The continuation of the interpreter that stands for what is left to do. -/
def AfterStmt.resume (mode : ReturnMode) : AfterStmt → Continuation Report Completion
  | .top n ss => fun r σ =>
    match r with
    | .ok _ => execTop mode n ss σ finish
    | .error e => finish (.error e) σ
  | .list n depth ss rest => fun r σ =>
    match r with
    | .ok .next => execList mode n depth ss σ (rest.resume mode)
    | .ok (.return e) => rest.resume mode (.ok (.return e)) σ
    | .error e => rest.resume mode (.error e) σ
  | .ite rest => fun r σ =>
    match r with
    | .ok c => rest.resume mode (.ok (mode.outside c)) σ
    | .error e => rest.resume mode (.error e) σ
  | .pass n depth l rest => fun r σ =>
    match r with
    | .ok c =>
      match mode.outside c with
      | .return e => rest.resume mode (.ok (.return e)) σ
      | .next => .poll fun cancelled =>
        if cancelled then rest.resume mode (.error .canceled) σ
        else match l.step with
          | none => loop mode n depth l.cond l.body l.step σ (rest.resume mode)
          | some s => (exec mode n depth s >>= fun _ => loop mode n depth l.cond l.body l.step) σ
              (rest.resume mode)
    | .error e => rest.resume mode (.error e) σ
  | .loop n depth l rest => fun r σ =>
    match r with
    | .ok _ => loop mode n depth l.cond l.body l.step σ (rest.resume mode)
    | .error e => rest.resume mode (.error e) σ
  | .body n depth _ caller rest => fun r σ =>
    match r with
    | .ok .next => rest.resume mode (.ok .undefined) { σ with frame := caller }
    | .ok (.return e) => eval mode n (depth + 1) e σ fun r σ' =>
      rest.resume mode r { σ' with frame := caller }
    | .error e => rest.resume mode (.error e) { σ with frame := caller }

def AfterValue.resume (mode : ReturnMode) : AfterValue → Continuation Report Value
  | .bind name rest => fun r σ =>
    match r with
    | .ok v => rest.resume mode (.ok .next) { σ with frame := σ.frame.set name v }
    | .error e => rest.resume mode (.error e) σ
  | .drop rest => fun r σ =>
    match r with
    | .ok _ => rest.resume mode (.ok .next) σ
    | .error e => rest.resume mode (.error e) σ
  | .result _ caller rest => fun r σ => rest.resume mode r { σ with frame := caller }

end

/-- What the interpreter makes of a moment. -/
def Moment.dialogue (mode : ReturnMode) (m : Moment) : Dialogue Report :=
  match m.work with
  | .exec n depth s rest => exec mode n depth s m.state (rest.resume mode)
  | .list n depth ss rest => execList mode n depth ss m.state (rest.resume mode)
  | .loop n depth l rest => loop mode n depth l.cond l.body l.step m.state (rest.resume mode)
  | .eval n depth e rest => eval mode n depth e m.state (rest.resume mode)
  | .call n depth name args rest => call mode n depth name args m.state (rest.resume mode)
  | .top n ss => execTop mode n ss m.state finish
  | .ended r rest => rest.resume mode r m.state
  | .valued r rest => rest.resume mode r m.state
  | .finished r => finish r m.state

/-- The dialogue that begins with a move. -/
def Move.dialogue (mode : ReturnMode) : Move → Dialogue Report
  | .silent next => next.dialogue mode
  | .say text next => .say text (next.dialogue mode)
  | .ask name given refused => .ask name fun answer =>
    match answer with
    | .ok raw => (given raw).dialogue mode
    | .error fault => (refused fault).dialogue mode
  | .poll stop go => .poll fun cancelled =>
    if cancelled then stop.dialogue mode else go.dialogue mode
  | .done report => .done report
  | .cut => .cut

/-- A move that is not silent opens a dialogue. -/
inductive Move.Opens (mode : ReturnMode) : Move → Dialogue Report → Prop
  | say {text : Text} {next : Moment} : Opens mode (.say text next) (.say text (next.dialogue mode))
  | ask {name : Token} {given : Text → Moment} {refused : InputFault → Moment} :
    Opens mode (.ask name given refused) ((Move.ask name given refused).dialogue mode)
  | poll {stop go : Moment} : Opens mode (.poll stop go) ((Move.poll stop go).dialogue mode)
  | done {report : Report} : Opens mode (.done report) (.done report)
  | cut : Opens mode .cut .cut

theorem Move.silent_or_opens (mode : ReturnMode) (move : Move) :
    (∃ next, move = .silent next) ∨ move.Opens mode (move.dialogue mode) := by
  cases move with
  | silent next => exact .inl ⟨next, rfl⟩
  | say text next => exact .inr .say
  | ask name given refused => exact .inr .ask
  | poll stop go => exact .inr .poll
  | done report => exact .inr .done
  | cut => exact .inr .cut

theorem Moment.dialogue_start (mode : ReturnMode) (p : Program) (n : Nat) :
    (Moment.start p n).dialogue mode = p.dialogue mode n := rfl

/-- Continuations are compared by what they do after a success and after a failure. -/
theorem Continuation.ext {α : Type} {k k' : Continuation Report α}
    (hok : ∀ a σ, k (.ok a) σ = k' (.ok a) σ) (herror : ∀ e σ, k (.error e) σ = k' (.error e) σ) :
    k = k' := by
  funext r σ
  cases r with
  | ok a => exact hok a σ
  | error e => exact herror e σ

namespace Moment

variable {mode : ReturnMode} {n depth : Nat} {σ : RunState} {rest : AfterStmt}

theorem dialogue_of_bound {work : Work} (h : work.bound? = some 0) :
    Moment.dialogue mode ⟨work, σ⟩ = .cut := by
  cases work <;> cases h <;> rfl

theorem dialogue_ite_of_holds {cond : Condition} {body : List Stmt}
    {alternative : Option (List Stmt)} (h : cond.holds σ.frame = true) :
    exec mode (n + 1) depth (.ite cond body alternative) σ (rest.resume mode) =
      execList mode n depth body σ ((AfterStmt.ite rest).resume mode) := by
  show (if cond.holds σ.frame then _ else _ : Action Report Completion) σ _ = _
  rw [if_pos h]
  exact congrArg (execList mode n depth body σ) (Continuation.ext (fun _ _ => rfl) fun _ _ => rfl)

theorem dialogue_else_of_not_holds {cond : Condition} {body alternative : List Stmt}
    (h : cond.holds σ.frame = false) :
    exec mode (n + 1) depth (.ite cond body (some alternative)) σ (rest.resume mode) =
      execList mode n depth alternative σ ((AfterStmt.ite rest).resume mode) := by
  show (if cond.holds σ.frame then _ else _ : Action Report Completion) σ _ = _
  rw [h]
  exact congrArg (execList mode n depth alternative σ)
    (Continuation.ext (fun _ _ => rfl) fun _ _ => rfl)

theorem dialogue_ite_of_not_holds {cond : Condition} {body : List Stmt}
    (h : cond.holds σ.frame = false) :
    exec mode (n + 1) depth (.ite cond body none) σ (rest.resume mode) =
      rest.resume mode (.ok .next) σ := by
  show (if cond.holds σ.frame then _ else _ : Action Report Completion) σ _ = _
  rw [h]
  rfl

theorem dialogue_list {s : Stmt} {ss : List Stmt} :
    execList mode (n + 1) depth (s :: ss) σ (rest.resume mode) =
      .poll fun cancelled =>
        if cancelled then rest.resume mode (.error .canceled) σ
        else exec mode n depth s σ ((AfterStmt.list n depth ss rest).resume mode) := by
  refine congrArg Dialogue.poll (funext fun cancelled => ?_)
  cases cancelled with
  | true => rfl
  | false =>
    refine congrArg (exec mode n depth s σ) (Continuation.ext (fun c _ => ?_) fun _ _ => rfl)
    cases c with
    | next => rfl
    | «return» e => rfl

theorem dialogue_top {s : Stmt} {ss : List Stmt} :
    execTop mode n (s :: ss) σ finish =
      .poll fun cancelled =>
        if cancelled then finish (.error .canceled) σ
        else exec mode n 0 s σ ((AfterStmt.top n ss).resume mode) := by
  refine congrArg Dialogue.poll (funext fun cancelled => ?_)
  cases cancelled with
  | true => rfl
  | false => exact congrArg (exec mode n 0 s σ) (Continuation.ext (fun _ _ => rfl) fun _ _ => rfl)

theorem dialogue_again (l : LoopCode) :
    Moment.dialogue mode ⟨l.again n depth rest, σ⟩ =
      match l.step with
      | none => loop mode n depth l.cond l.body l.step σ (rest.resume mode)
      | some s => (exec mode n depth s >>= fun _ => loop mode n depth l.cond l.body l.step) σ
          (rest.resume mode) := by
  obtain ⟨cond, body, step⟩ := l
  cases step with
  | none => rfl
  | some s =>
    exact congrArg (exec mode n depth s σ) (Continuation.ext (fun _ _ => rfl) fun _ _ => rfl)

theorem dialogue_loop_of_holds {l : LoopCode} (h : l.cond.holds σ.frame = true) :
    loop mode (n + 1) depth l.cond l.body l.step σ (rest.resume mode) =
      execList mode n depth l.body σ ((AfterStmt.pass n depth l rest).resume mode) := by
  show (if l.cond.holds σ.frame then _ else _ : Action Report Completion) σ _ = _
  rw [if_pos h]
  refine congrArg (execList mode n depth l.body σ)
    (Continuation.ext (fun c σ' => ?_) fun _ _ => rfl)
  show (match mode.outside c with | .return e => _ | .next => _ : Action Report Completion) σ' _ =
    (match mode.outside c with | .return e => _ | .next => _ : Dialogue Report)
  cases mode.outside c with
  | «return» e => rfl
  | next =>
    refine congrArg Dialogue.poll (funext fun cancelled => ?_)
    obtain ⟨cond, body, step⟩ := l
    cases cancelled with
    | true => rfl
    | false => cases step <;> rfl

theorem dialogue_loop_of_not_holds {l : LoopCode} (h : l.cond.holds σ.frame = false) :
    loop mode (n + 1) depth l.cond l.body l.step σ (rest.resume mode) =
      rest.resume mode (.ok .next) σ := by
  show (if l.cond.holds σ.frame then _ else _ : Action Report Completion) σ _ = _
  rw [h]
  rfl

theorem dialogue_body {f : Function} {caller : Frame} {after : AfterValue} :
    (callBody mode n depth f σ fun r σ' => after.resume mode r { σ' with frame := caller }) =
      execList mode n (depth + 1) f.body σ ((AfterStmt.body n depth f caller after).resume mode) := by
  refine congrArg (execList mode n (depth + 1) f.body σ)
    (Continuation.ext (fun c σ' => ?_) fun _ _ => rfl)
  cases c with
  | next => rfl
  | «return» e => rfl

theorem dialogue_pass_of_next {c : Completion} {l : LoopCode} (h : mode.outside c = .next) :
    (AfterStmt.pass n depth l rest).resume mode (.ok c) σ =
      .poll fun cancelled =>
        if cancelled then rest.resume mode (.error .canceled) σ
        else Moment.dialogue mode ⟨l.again n depth rest, σ⟩ := by
  rw [dialogue_again]
  show (match mode.outside c with | .return e => _ | .next => _ : Dialogue Report) = _
  rw [h]

theorem dialogue_pass_of_return {c : Completion} {l : LoopCode} {e : Expr}
    (h : mode.outside c = .return e) :
    (AfterStmt.pass n depth l rest).resume mode (.ok c) σ =
      rest.resume mode (.ok (.return e)) σ := by
  show (match mode.outside c with | .return e => _ | .next => _ : Dialogue Report) = _
  rw [h]

/-- What the interpreter makes of a moment begins with its move. -/
theorem Moves.dialogue {m : Moment} {move : Move} (h : m.Moves mode move) :
    m.dialogue mode = move.dialogue mode := by
  cases h with
  | cut h => exact dialogue_of_bound h
  | @declare value n depth _ _ σ =>
    exact congrArg (eval mode n depth value σ) (Continuation.ext (fun _ _ => rfl) fun _ _ => rfl)
  | @assign value n depth _ _ σ =>
    exact congrArg (eval mode n depth value σ) (Continuation.ext (fun _ _ => rfl) fun _ _ => rfl)
  | @read _ _ name =>
    refine congrArg (Dialogue.ask name) (funext fun answer => ?_)
    cases answer with
    | ok raw => rfl
    | error fault => rfl
  | iteTrue h => exact dialogue_ite_of_holds h
  | iteFalse h => exact dialogue_else_of_not_holds h
  | iteNone h => exact dialogue_ite_of_not_holds h
  | @«for» init _ _ _ n depth _ σ =>
    exact congrArg (exec mode n depth init σ) (Continuation.ext (fun _ _ => rfl) fun _ _ => rfl)
  | @call args n depth name _ σ =>
    exact congrArg (Scriptlet.call mode n depth name args σ)
      (Continuation.ext (fun _ _ => rfl) fun _ _ => rfl)
  | cons => exact dialogue_list
  | topCons => exact dialogue_top
  | loopTrue h => exact dialogue_loop_of_holds h
  | loopFalse h => exact dialogue_loop_of_not_holds h
  | notFound h => exact call_of_none h _
  | tooDeep h hdepth => exact call_of_depth h hdepth _
  | enter h hdepth => exact (call_of_get? h hdepth _).trans dialogue_body
  | passNext h => exact dialogue_pass_of_next h
  | passReturn h => exact dialogue_pass_of_return h
  | @failed _ rest => cases rest <;> rfl
  | @failedExpr _ after => cases after <;> rfl
  | _ => rfl

end Moment

end Scriptlet
