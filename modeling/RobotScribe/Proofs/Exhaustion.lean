/-
# Evaluations that run out of fuel

An evaluation without an outcome has come to a point at which no fuel is left, and an evaluation
that comes to such a point has no outcome (`Point.exhausted_iff`).  So the points of a run are what
they are meant to be.  If a part of the evaluator were missing among them, a run could run out of
fuel in that part without coming to a point that has none; and if a point were not evaluated, a run
could have an outcome in spite of it.

The operations of the machine finish (`Finishes`), so a bind of two parts is exhausted in the first
one, or else in the second one after a result of the first.
-/
import RobotScribe.Proofs.DryTermination
import RobotScribe.Proofs.Stops

namespace RobotScribe

namespace Eval

variable {α β : Type} {m n : Machine}

/-! ## Binds that are exhausted -/

lemma bind_eq_none {x : Eval α} {f : α → Eval β} :
    (x >>= f) m = none ↔ x m = none ∨ ∃ a l, x m = some (.ok a, l) ∧ f a l = none := by
  rw [bind_apply]
  rcases x m with _ | ⟨fault | a, l⟩
  · simp
  · simp
  · simp

lemma Finishes.ne_none {x : Eval α} (finishes : Finishes x) : x m ≠ none := by
  obtain ⟨outcome, n, ran⟩ := finishes m
  rw [ran]
  exact Option.some_ne_none _

/-- After a computation that finishes, a bind is exhausted in its second part. -/
lemma Finishes.bind_eq_none {x : Eval α} {f : α → Eval β} (finishes : Finishes x) :
    (x >>= f) m = none ↔ ∃ a l, x m = some (.ok a, l) ∧ f a l = none := by
  rw [Eval.bind_eq_none, or_iff_right finishes.ne_none]

lemma enterSpan_bind_eq_none {span : Span} {f : Unit → Eval β} :
    (enterSpan span >>= f) m = none ↔ ∃ l, enterSpan span m = some (.ok (), l) ∧ f () l = none := by
  rw [(Finishes.enterSpan span).bind_eq_none]
  constructor
  · rintro ⟨⟨⟩, found⟩
    exact found
  · intro found
    exact ⟨(), found⟩

lemma ofExcept_bind_eq_none {outcome : Except Fault α} {f : α → Eval β} :
    (ofExcept outcome >>= f) m = none ↔ ∃ a, outcome = .ok a ∧ f a m = none := by
  rw [bind_apply, ofExcept_apply]
  cases outcome with
  | ok a => simp
  | error fault => simp

/-- Before computations that finish, a bind is exhausted in its first part. -/
lemma bind_eq_none_of_finishes {x : Eval α} {f : α → Eval β} (finishes : ∀ a, Finishes (f a)) :
    (x >>= f) m = none ↔ x m = none := by
  rw [Eval.bind_eq_none, or_iff_left]
  rintro ⟨a, l, -, stuck⟩
  exact (finishes a).ne_none stuck

/-! ## Operations that finish -/

namespace Finishes

lemma nextInteger : Finishes nextInteger := fun _ => ⟨_, _, rfl⟩

lemma tracing (record : CallTrace → Except Fault Unit × CallTrace) : Finishes (tracing record) := by
  intro m
  unfold Eval.tracing
  split
  · exact ⟨_, _, rfl⟩
  · exact ⟨_, _, rfl⟩

lemma traceCall (function : Function) (args : List Slot) (line : UInt32) :
    Finishes (traceCall function args line) :=
  .bind (fun _ => ⟨_, _, rfl⟩) fun _ => tracing _

lemma traceReturn (function : Function) (result : Value) (args : List Slot) (line : UInt32) :
    Finishes (traceReturn function result args line) :=
  .bind (fun _ => ⟨_, _, rfl⟩) fun _ => tracing _

lemma enter (function : Function) (slots : List Slot) (callLine : UInt32) :
    Finishes (enter function slots callLine) := by
  refine .bind (traceCall _ _ _) fun _ => .bind (fun _ => ⟨_, _, rfl⟩) fun _ => ?_
  exact .bind (.setLine _) fun _ _ => ⟨_, _, rfl⟩

lemma leave (function : Function) (slots : List Slot) (callLine : UInt32) (result : Value) :
    Finishes (leave function slots callLine result) := by
  refine .bind .currentLine fun _ => .bind (traceReturn _ _ _ _) fun _ => ?_
  exact .bind (fun _ => ⟨_, _, rfl⟩) fun _ => .bind (.setLine _) fun _ => .pure _

end Finishes

/-- What is left out is written if the code around it is live, and can be exhausted only then. -/
lemma leaveOut_eq_none {functions : String → Option Function} {fuel : Nat} {here : Cursor}
    {statements : List Stmt} {flow : Flow} :
    leaveOut functions fuel here statements flow m = none ↔
      here.phase = .live ∧ writeOut functions fuel here statements m = none := by
  unfold leaveOut
  cases phase : here.phase with
  | live =>
    rw [and_iff_right rfl]
    exact bind_eq_none_of_finishes fun _ => .pure flow
  | silent => simp
  | dry => simp

lemma takingBack_eq_none {body : Eval Unit} : takingBack body m = none ↔ body m = none := by
  unfold takingBack
  rcases body m with _ | ⟨fault | ⟨⟨⟩⟩, l⟩
  · simp
  · simp
  · simp

end Eval

open Eval

/-! ## Points that are exhausted -/

variable {functions : String → Option Function} {fuel : Nat} {here : Cursor} {m : Machine}

/-- There is not enough fuel to evaluate a point. -/
def Point.Exhausted (functions : String → Option Function) (p : Point) : Prop :=
  p.task.evaluate functions p.fuel p.machine = none

lemma Point.exhausted_of_fuel {p : Point} (out : p.fuel = 0) : p.Exhausted functions := by
  obtain ⟨fuel, task, m⟩ := p
  obtain rfl : fuel = 0 := out
  cases task <;> rfl

/-- A point comes to one that there is not enough fuel for. -/
def Point.Starved (functions : String → Option Function) (p : Point) : Prop :=
  ∃ q, Into functions p q ∧ q.Exhausted functions

/-! ### Expressions and calls -/

lemma starved_of_expr {e : Expr} (stuck : expr functions (fuel + 1) here e m = none) :
    Point.Starved functions ⟨fuel + 1, .expr here e, m⟩ := by
  rw [expr, currentLine_bind] at stuck
  obtain ⟨n, enters, stuck⟩ := enterSpan_bind_eq_none.mp stuck
  rw [bind_eq_none_of_finishes fun _ => .bind (.setLine _) fun _ => .pure _] at stuck
  exact ⟨_, .form enters, stuck⟩

lemma starved_of_sense {sensor : Sensor} (stuck : sense functions (fuel + 1) here sensor m = none) :
    Point.Starved functions ⟨fuel + 1, .sense here sensor, m⟩ := by
  cases sensor with
  | look direction =>
    rw [sense, bind_eq_none_of_finishes fun _ => .bind (.ofExcept _) fun _ => .pure _] at stuck
    exact ⟨_, .direction, stuck⟩
  | _ => cases stuck

section

variable {left right : Expr} {span : Span}

/-- Both operands are evaluated, unless the operator is a connective. -/
lemma starved_of_operands {op : BinOp} (plain : ∀ connective, op ≠ .logical connective)
    {combine : Value → Value → Except Fault Value}
    (stuck : (do
      let lhs ← expr functions fuel here left
      let rhs ← expr functions fuel here right
      Eval.ofExcept (combine lhs rhs)) m = none) :
    Point.Starved functions ⟨fuel + 1, .form here (.binary left op right span), m⟩ := by
  rcases bind_eq_none.mp stuck with stuck | ⟨lhs, n, done, stuck⟩
  · exact ⟨_, .left, stuck⟩
  · rw [bind_eq_none_of_finishes fun _ => .ofExcept _] at stuck
    exact ⟨_, .right done fun connective same => absurd same (plain connective), stuck⟩

lemma starved_of_connective {op : Connective}
    (stuck : form functions (fuel + 1) here (.binary left (.logical op) right span) m = none) :
    Point.Starved functions ⟨fuel + 1, .form here (.binary left (.logical op) right span), m⟩ := by
  rw [form] at stuck
  rcases bind_eq_none.mp stuck with stuck | ⟨lhs, n, done, stuck⟩
  · exact ⟨_, .left, stuck⟩
  · obtain ⟨l, holds, stuck⟩ := ofExcept_bind_eq_none.mp stuck
    cases decided : op.decidedBy l with
    | true =>
      rw [decided] at stuck
      cases stuck
    | false =>
      rw [decided, if_neg Bool.false_ne_true,
        bind_eq_none_of_finishes fun _ => .bind (.ofExcept _) fun _ => .pure _] at stuck
      refine ⟨_, .right done ?_, stuck⟩
      rintro connective ⟨⟩
      exact ⟨l, holds, decided⟩

end

lemma starved_of_form {e : Expr} (stuck : form functions (fuel + 1) here e m = none) :
    Point.Starved functions ⟨fuel + 1, .form here e, m⟩ := by
  cases e with
  | integer | boolean | string | color => cases stuck
  | var name span =>
    rw [form] at stuck
    refine absurd stuck (Finishes.ne_none ?_)
    exact .bind (.lookup name) fun _ => .bind (.ofExcept _) fun _ => .pure _
  | element array index span =>
    rw [form, bind_eq_none_of_finishes fun _ => .bind (.ofExcept _) fun _ =>
      .bind (.lookup array.name) fun _ => .bind (.ofExcept _) fun _ =>
        .bind (.ofExcept _) fun _ => .pure _] at stuck
    exact ⟨_, .index, stuck⟩
  | call site span =>
    rw [form, bind_eq_none_of_finishes] at stuck
    · exact ⟨_, .call, stuck⟩
    · intro value
      split
      · exact .bind (.throw _) fun _ => .pure _
      · exact .pure _
  | sense sensor span => exact ⟨_, .sense, stuck⟩
  | binary left op right span =>
    cases op with
    | logical op => exact starved_of_connective stuck
    | _ => exact starved_of_operands (by rintro _ ⟨⟩) stuck
  | unary op operand span =>
    rw [form, bind_eq_none_of_finishes fun _ => .ofExcept _] at stuck
    exact ⟨_, .operand, stuck⟩
  | paren inner span =>
    rw [form, bind_eq_none_of_finishes fun _ => .pure _] at stuck
    exact ⟨_, .inner, stuck⟩

lemma starved_of_call {site : Call} (stuck : call functions (fuel + 1) here site m = none) :
    Point.Starved functions ⟨fuel + 1, .call here site, m⟩ := by
  cases declared : functions site.name.name with
  | none =>
    rw [call_of_undeclared functions declared] at stuck
    cases stuck
  | some function =>
    by_cases fits : site.args.length = function.params.length
    · rw [call_eq_gather declared fits] at stuck
      rcases bind_eq_none.mp stuck with stuck | ⟨slots, n, gathered, stuck⟩
      · rw [gather, bind_eq_none_of_finishes fun _ => .bind (.mark _ _) fun _ => .pure _] at stuck
        exact ⟨_, .arguments declared fits, stuck⟩
      · cases runs : here.phase.executes with
        | true =>
          rw [runs, if_pos rfl, bind_eq_none_of_finishes fun _ => .pure _] at stuck
          exact ⟨_, .runFunction declared fits runs gathered, stuck⟩
        | false =>
          rw [runs] at stuck
          cases stuck
    · rw [call_of_declared functions declared, if_pos fits] at stuck
      cases stuck

lemma starved_of_arguments {function : Function} {params : List Param} {args : List Expr}
    (stuck : arguments functions (fuel + 1) here function params args m = none) :
    Point.Starved functions ⟨fuel + 1, .arguments here function params args, m⟩ := by
  unfold arguments at stuck
  cases params with
  | nil => cases stuck
  | cons param params =>
    cases args with
    | nil => cases stuck
    | cons arg args =>
      rcases bind_eq_none.mp stuck with stuck | ⟨slot, n, done, stuck⟩
      · exact ⟨_, .argument, stuck⟩
      · rw [bind_eq_none_of_finishes fun _ => .pure _] at stuck
        exact ⟨_, .nextArguments done, stuck⟩

lemma starved_of_argument {function : Function} {param : Param} {arg : Expr}
    (stuck : argument functions (fuel + 1) here function param arg m = none) :
    Point.Starved functions ⟨fuel + 1, .argument here function param arg, m⟩ := by
  rw [argument] at stuck
  cases shared : param.isReference with
  | true =>
    rw [shared, if_pos rfl] at stuck
    cases name : arg.variableName? with
    | none =>
      rw [name] at stuck
      cases stuck
    | some name' =>
      rw [name] at stuck
      obtain ⟨found, n, -, stuck⟩ := (Finishes.slotOf name').bind_eq_none.mp stuck
      cases found with
      | some slot => cases stuck
      | none =>
        revert stuck
        dsimp only
        split
        · rintro ⟨⟩
        · rintro ⟨⟩
  | false =>
    rw [shared, if_neg Bool.false_ne_true, bind_eq_none_of_finishes fun _ => .newSlot _] at stuck
    exact ⟨_, .byValue shared, stuck⟩

lemma starved_of_runFunction {body : Cursor} {function : Function} {slots : List Slot}
    (stuck : runFunction functions (fuel + 1) body function slots m = none) :
    Point.Starved functions ⟨fuel + 1, .runFunction body function slots, m⟩ := by
  rw [runFunction_succ, currentLine_bind, (Finishes.enter _ _ _).bind_eq_none] at stuck
  obtain ⟨⟨⟩, n, entered, stuck⟩ := stuck
  rw [bind_eq_none_of_finishes fun _ => .leave _ _ _ _] at stuck
  exact ⟨_, .body entered, stuck⟩

lemma starved_of_numbers {args : List Expr}
    (stuck : numbers functions (fuel + 1) here args m = none) :
    Point.Starved functions ⟨fuel + 1, .numbers here args, m⟩ := by
  cases args with
  | nil => cases stuck
  | cons arg args =>
    rw [numbers] at stuck
    rcases bind_eq_none.mp stuck with stuck | ⟨value, l, done, stuck⟩
    · exact ⟨_, .number, stuck⟩
    · obtain ⟨number, integral, stuck⟩ := ofExcept_bind_eq_none.mp stuck
      rw [bind_eq_none_of_finishes fun _ => .pure _] at stuck
      have done : (do
          let value ← expr functions fuel here arg
          Eval.ofExcept value.expectInt) m = some (.ok number, l) := by
        rw [bind_of_ok done, integral, ofExcept_apply]
      exact ⟨_, .nextNumbers done, stuck⟩

/-! ### Statements -/

lemma starved_of_stmts {statements : List Stmt}
    (stuck : stmts functions (fuel + 1) here statements m = none) :
    Point.Starved functions ⟨fuel + 1, .stmts here statements, m⟩ := by
  cases statements with
  | nil => cases stuck
  | cons s rest =>
    cases runs : here.phase.executes with
    | true =>
      rw [stmts_cons_of_executes functions runs] at stuck
      rcases bind_eq_none.mp stuck with stuck | ⟨flow, n, done, stuck⟩
      · exact ⟨_, .stmt, stuck⟩
      cases flow with
      | none => exact ⟨_, .nextStmts done (Or.inl rfl), stuck⟩
      | some value =>
        obtain ⟨live, stuck⟩ := leaveOut_eq_none.mp stuck
        exact ⟨_, .restOut done live, stuck⟩
    | false =>
      have dry := Phase.eq_dry_of_executes runs
      rw [stmts_cons_of_dry functions dry] at stuck
      rcases bind_eq_none.mp stuck with stuck | ⟨flow, n, done, stuck⟩
      · exact ⟨_, .stmt, stuck⟩
      · exact ⟨_, .nextStmts done (Or.inr dry), stuck⟩

lemma starved_of_assign {target : Target} {value : Expr} {span : Span}
    (stuck : stmt functions (fuel + 1) here (.assign target value span) m = none) :
    Point.Starved functions ⟨fuel + 1, .stmt here (.assign target value span), m⟩ := by
  cases target with
  | var target =>
    rw [stmt] at stuck
    obtain ⟨n, enters, stuck⟩ := enterSpan_bind_eq_none.mp stuck
    rw [bind_eq_none_of_finishes fun _ =>
      .bind (.emit _ _) fun _ => .bind (.define _ _) fun _ => .pure _] at stuck
    exact ⟨_, .assigned enters, stuck⟩
  | element array index =>
    rw [stmt] at stuck
    obtain ⟨n, enters, stuck⟩ := enterSpan_bind_eq_none.mp stuck
    rcases bind_eq_none.mp stuck with stuck | ⟨v, l, done, stuck⟩
    · exact ⟨_, .assigned enters, stuck⟩
    · rw [bind_eq_none_of_finishes fun _ => .bind (.ofExcept _) fun _ => .bind (.emit _ _) fun _ =>
        .bind (.storeElement _ _ _) fun _ => .bind (.ofExcept _) fun _ => .pure _] at stuck
      exact ⟨_, .position ((bind_of_ok enters).trans done), stuck⟩

/-- The test of a condition is exhausted in the condition. -/
lemma test_eq_none {span : Span} {word : String} {condition : Expr} :
    test functions fuel here span word condition m = none ↔
      ∃ n, enterSpan span m = some (.ok (), n) ∧ expr functions fuel here condition n = none := by
  have rest (value : Value) : Finishes (do
      let holds ← Eval.ofExcept value.expectBool
      emit here (word ++ value.text)
      return holds) :=
    .bind (.ofExcept _) fun _ => .bind (.emit _ _) fun _ => .pure _
  rw [test, enterSpan_bind_eq_none]
  simp only [bind_eq_none_of_finishes rest]

lemma starved_of_ifThen {condition : Expr} {thenBlock : Block} {elseBlock : Option Block}
    {span : Span}
    (stuck : stmt functions (fuel + 1) here (.ifThen condition thenBlock elseBlock span) m = none) :
    Point.Starved functions
      ⟨fuel + 1, .stmt here (.ifThen condition thenBlock elseBlock span), m⟩ := by
  rw [stmt_ifThen_eq_test] at stuck
  rcases bind_eq_none.mp stuck with stuck | ⟨taken, n, tested, stuck⟩
  · obtain ⟨n, enters, stuck⟩ := test_eq_none.mp stuck
    exact ⟨_, .condition enters, stuck⟩
  rcases bind_eq_none.mp stuck with stuck | ⟨first, l, done, stuck⟩
  · exact ⟨_, .thenBranch tested, stuck⟩
  rw [bind_eq_none_of_finishes fun _ => .bind (.emit _ _) fun _ => .pure _] at stuck
  cases elseBlock with
  | none => cases stuck
  | some elseBlock =>
    rw [secondBranch, (Finishes.emit _ _).bind_eq_none] at stuck
    obtain ⟨⟨⟩, l', written, stuck⟩ := stuck
    rw [bind_eq_none_of_finishes fun _ => .pure _] at stuck
    have done : (do
        let taken ← test functions fuel here span "if " condition
        let _ ← branch functions fuel here thenBlock taken
        emit here "else"
        return taken) m = some (.ok taken, l') := by
      rw [bind_of_ok tested, bind_of_ok done, bind_of_ok written, pure_apply]
    exact ⟨_, .elseBranch done, stuck⟩

lemma starved_of_whileDo {condition : Expr} {body : Block} {span : Span}
    (stuck : stmt functions (fuel + 1) here (.whileDo condition body span) m = none) :
    Point.Starved functions ⟨fuel + 1, .stmt here (.whileDo condition body span), m⟩ := by
  rw [stmt_whileDo_eq_test] at stuck
  rcases bind_eq_none.mp stuck with stuck | ⟨entered, n, tested, stuck⟩
  · obtain ⟨n, enters, stuck⟩ := test_eq_none.mp stuck
    exact ⟨_, .loopCondition enters, stuck⟩
  · rw [bind_eq_none_of_finishes fun _ => .bind (.emit _ _) fun _ => .pure _] at stuck
    exact ⟨_, .firstRound tested, stuck⟩

lemma starved_of_stmt {s : Stmt} (stuck : stmt functions (fuel + 1) here s m = none) :
    Point.Starved functions ⟨fuel + 1, .stmt here s, m⟩ := by
  cases s with
  | assign target value span => exact starved_of_assign stuck
  | ifThen condition thenBlock elseBlock span => exact starved_of_ifThen stuck
  | whileDo condition body span => exact starved_of_whileDo stuck
  | giveBack value span =>
    cases value with
    | none =>
      rw [stmt] at stuck
      obtain ⟨n, -, stuck⟩ := enterSpan_bind_eq_none.mp stuck
      cases stuck
    | some value =>
      rw [stmt] at stuck
      obtain ⟨n, enters, stuck⟩ := enterSpan_bind_eq_none.mp stuck
      rw [bind_eq_none_of_finishes fun _ => .bind (.emit _ _) fun _ => .pure _] at stuck
      exact ⟨_, .given enters, stuck⟩
  | read target span =>
    rw [stmt] at stuck
    obtain ⟨n, -, stuck⟩ := enterSpan_bind_eq_none.mp stuck
    cases runs : here.phase.executes with
    | true =>
      rw [runs, if_pos rfl, Finishes.nextInteger.bind_eq_none] at stuck
      obtain ⟨number, l, -, stuck⟩ := stuck
      cases stuck
    | false =>
      rw [runs] at stuck
      cases stuck
  | write value span =>
    rw [stmt] at stuck
    obtain ⟨n, enters, stuck⟩ := enterSpan_bind_eq_none.mp stuck
    rw [bind_eq_none_of_finishes fun _ => .bind (.emit _ _) fun _ => .pure _] at stuck
    exact ⟨_, .printed enters, stuck⟩
  | actuate actuator args span =>
    rw [stmt] at stuck
    obtain ⟨n, enters, stuck⟩ := enterSpan_bind_eq_none.mp stuck
    rw [bind_eq_none_of_finishes fun _ => .bind (.emit _ _) fun _ => .pure _] at stuck
    exact ⟨_, .numbers enters, stuck⟩
  | paint color span =>
    rw [stmt] at stuck
    obtain ⟨n, enters, stuck⟩ := enterSpan_bind_eq_none.mp stuck
    rw [bind_eq_none_of_finishes fun _ =>
      .bind (.ofExcept _) fun _ => .bind (.emit _ _) fun _ => .pure _] at stuck
    exact ⟨_, .painted enters, stuck⟩
  | pen down span =>
    rw [stmt] at stuck
    obtain ⟨n, -, stuck⟩ := enterSpan_bind_eq_none.mp stuck
    cases stuck
  | sense sensor span =>
    rw [stmt] at stuck
    obtain ⟨n, enters, stuck⟩ := enterSpan_bind_eq_none.mp stuck
    rw [bind_eq_none_of_finishes fun _ => .bind (.emit _ _) fun _ => .pure _] at stuck
    exact ⟨_, .reading enters, stuck⟩
  | call site =>
    rw [stmt] at stuck
    obtain ⟨n, enters, stuck⟩ := enterSpan_bind_eq_none.mp stuck
    rw [bind_eq_none_of_finishes fun _ => .pure _] at stuck
    exact ⟨_, .performed enters, stuck⟩

/-! ### Branches and loops -/

lemma starved_of_branch {block : Block} {taken : Bool}
    (stuck : branch functions (fuel + 1) here block taken m = none) :
    Point.Starved functions ⟨fuel + 1, .branch here block taken, m⟩ := by
  cases runs : here.phase.executes with
  | true =>
    rw [branch_of_executes functions runs] at stuck
    cases taken with
    | true => exact ⟨_, .branch (Or.inl rfl), stuck⟩
    | false =>
      obtain ⟨live, stuck⟩ := leaveOut_eq_none.mp stuck
      exact ⟨_, .branchOut live, stuck⟩
  | false =>
    have dry := Phase.eq_dry_of_executes runs
    rw [branch_of_dry functions dry, bind_eq_none_of_finishes fun _ => .pure _] at stuck
    exact ⟨_, .branch (Or.inr dry), stuck⟩

lemma starved_of_firstRound {condition : Expr} {body : Block} {entered : Bool}
    (stuck : firstRound functions (fuel + 1) here condition body entered m = none) :
    Point.Starved functions ⟨fuel + 1, .firstRound here condition body entered, m⟩ := by
  cases runs : here.phase.executes with
  | true =>
    rw [firstRound_of_executes functions runs] at stuck
    cases entered with
    | true => exact ⟨_, .rounds runs, stuck⟩
    | false =>
      obtain ⟨live, stuck⟩ := leaveOut_eq_none.mp stuck
      exact ⟨_, .loopOut live, stuck⟩
  | false =>
    have dry := Phase.eq_dry_of_executes runs
    rw [firstRound_of_dry functions dry, bind_eq_none_of_finishes fun _ => .pure _] at stuck
    exact ⟨_, .dryRound dry, stuck⟩

lemma starved_of_rounds {condition : Expr} {body : Block}
    (stuck : rounds functions (fuel + 1) here condition body m = none) :
    Point.Starved functions ⟨fuel + 1, .rounds here condition body, m⟩ := by
  rw [rounds] at stuck
  rcases bind_eq_none.mp stuck with stuck | ⟨flow, l, done, stuck⟩
  · exact ⟨_, .round, stuck⟩
  cases flow with
  | some value => cases stuck
  | none =>
    rcases bind_eq_none.mp stuck with stuck | ⟨value, n, tested, stuck⟩
    · exact ⟨_, .retest done, stuck⟩
    obtain ⟨again, holds, stuck⟩ := ofExcept_bind_eq_none.mp stuck
    cases again with
    | true =>
      have holds : (do
          let value ← expr functions fuel (here.inPhase .silent) condition
          Eval.ofExcept value.expectBool) l = some (.ok true, n) := by
        rw [bind_of_ok tested, holds, ofExcept_apply]
      exact ⟨_, .again done holds, stuck⟩
    | false => cases stuck

lemma starved_of_writeOut {statements : List Stmt}
    (stuck : writeOut functions (fuel + 1) here statements m = none) :
    Point.Starved functions ⟨fuel + 1, .writeOut here statements, m⟩ := by
  rw [writeOut, takingBack_eq_none, bind_eq_none_of_finishes fun _ => .pure _] at stuck
  exact ⟨_, .dry, stuck⟩

/-- A point at which there is fuel is exhausted only if it comes to another one that is. -/
lemma Point.Exhausted.starved {p : Point} (stuck : p.Exhausted functions)
    (left : p.fuel = fuel + 1) : p.Starved functions := by
  obtain ⟨_, task, m⟩ := p
  cases left
  cases task with
  | expr here e => exact starved_of_expr stuck
  | form here e => exact starved_of_form stuck
  | sense here sensor => exact starved_of_sense stuck
  | call here site => exact starved_of_call stuck
  | arguments here function params args => exact starved_of_arguments stuck
  | argument here function param arg => exact starved_of_argument stuck
  | runFunction body function slots => exact starved_of_runFunction stuck
  | stmts here statements => exact starved_of_stmts stuck
  | stmt here s => exact starved_of_stmt stuck
  | branch here block taken => exact starved_of_branch stuck
  | firstRound here condition body entered => exact starved_of_firstRound stuck
  | rounds here condition body => exact starved_of_rounds stuck
  | numbers here args => exact starved_of_numbers stuck
  | writeOut here statements => exact starved_of_writeOut stuck

/-! ### The other way round -/

/-- A point that comes to one that is exhausted is exhausted, too. -/
lemma Point.Exhausted.of_into {p q : Point} (stuck : q.Exhausted functions)
    (into : Into functions p q) : p.Exhausted functions :=
  have stops : q.StopsWith functions none := stuck
  stops.of_into into

/-! ## Running out of fuel -/

/-- Coming to a part costs one unit of fuel. -/
lemma Into.fuel_eq {p q : Point} (into : Into functions p q) : p.fuel = q.fuel + 1 := by
  cases into <;> rfl

/-- **An evaluation runs out of fuel where none is left.**  A point is exhausted exactly if it comes
to a point without fuel. -/
theorem Point.exhausted_iff {p : Point} :
    p.Exhausted functions ↔ ∃ q, ComesTo functions p q ∧ q.fuel = 0 := by
  constructor
  · intro stuck
    induction left : p.fuel generalizing p with
    | zero => exact ⟨p, .refl, left⟩
    | succ fuel ih =>
      obtain ⟨q, into, stuck⟩ := stuck.starved left
      obtain ⟨r, comes, out⟩ := ih stuck (Nat.succ.inj (into.fuel_eq.symm.trans left))
      exact ⟨r, .head into comes, out⟩
  · rintro ⟨q, comes, out⟩
    induction comes using Relation.ReflTransGen.head_induction_on with
    | refl => exact exhausted_of_fuel out
    | head into comes stuck => exact stuck.of_into into

namespace Session

lemma perform_eq_none {s : Session} {x : Eval Unit} : s.perform x = none ↔ x s.machine = none := by
  unfold perform
  rcases x s.machine with _ | ⟨fault | ⟨⟨⟩⟩, m⟩
  · simp
  · simp
  · simp

/-- A run is exhausted in the call of the main function. -/
lemma run_eq_none {s : Session} :
    s.run fuel = none ↔ ∃ main, s.declarations.find? mainName = some main ∧
      Point.Exhausted s.declarations.find?
        ⟨fuel, .runFunction (.top .live) main [], s.started⟩ := by
  have labelled : Eval.label "MainProgram:" s.machine = some (.ok (), s.started) := rfl
  rw [run, perform_eq_none, runMain, bind_of_ok labelled]
  cases s.declarations.find? mainName with
  | none => simp
  | some main =>
    dsimp only
    rw [bind_eq_none_of_finishes fun _ => .label _]
    simp only [Option.some.injEq, exists_eq_left']
    rfl

/-- A run has no outcome exactly if it passes through a point at which no fuel is left. -/
theorem run_eq_none_iff {s : Session} :
    s.run fuel = none ↔ ∃ p, s.Passes fuel p ∧ p.fuel = 0 := by
  rw [run_eq_none]
  simp only [Point.exhausted_iff, Passes]
  constructor
  · rintro ⟨main, declared, p, comes, out⟩
    exact ⟨p, ⟨main, declared, comes⟩, out⟩
  · rintro ⟨p, ⟨main, declared, comes⟩, out⟩
    exact ⟨main, declared, p, comes, out⟩

end Session

end RobotScribe
