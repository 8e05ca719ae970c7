/-
# Dry code comes to an end

Code that runs may go round a loop for ever, or call itself for ever.  Dry code goes through its
syntax once: it writes the body of a loop without going round, and it does not run what it calls.
So the depth of its evaluation is bounded by the number of nodes of the syntax, whatever functions
the program has and whatever the machine holds.

The bound counts nodes and nothing else.  Neither the literals of a program nor its names or
positions make its evaluation any deeper.
-/
import RobotScribe.Proofs.Blocks
import RobotScribe.Proofs.Fuel

namespace RobotScribe

/-! ## Sizes -/

mutual

/-- The number of nodes of an expression. -/
def Expr.size : Expr → Nat
  | .element _ index _ => index.size + 1
  | .call site _ => site.size + 1
  | .sense sensor _ => sensor.size + 1
  | .binary left _ right _ => left.size + right.size + 1
  | .unary _ operand _ => operand.size + 1
  | .paren inner _ => inner.size + 1
  | .integer .. | .boolean .. | .string .. | .color .. | .var .. => 1

/-- The number of nodes of a call. -/
def Call.size : Call → Nat
  | ⟨_, args, _⟩ => exprsSize args + 1

/-- The number of nodes of a sensor. -/
def Sensor.size : Sensor → Nat
  | .look direction => direction.size + 1
  | .feel | .infrared | .bumper | .compass | .beacon _ => 1

/-- The number of nodes of some expressions. -/
def exprsSize : List Expr → Nat
  | [] => 0
  | e :: rest => e.size + exprsSize rest

end

/-- The number of nodes of the left-hand side of an assignment. -/
def Target.size : Target → Nat
  | .var _ => 1
  | .element _ index => index.size + 1

mutual

/-- The number of nodes of a statement. -/
def Stmt.size : Stmt → Nat
  | .assign target value _ => target.size + value.size + 1
  | .ifThen condition thenBlock none _ => condition.size + thenBlock.size + 1
  | .ifThen condition thenBlock (some elseBlock) _ =>
    condition.size + thenBlock.size + elseBlock.size + 1
  | .whileDo condition body _ => condition.size + body.size + 1
  | .giveBack (some value) _ => value.size + 1
  | .write value _ => value.size + 1
  | .actuate _ args _ => exprsSize args + 1
  | .paint color _ => color.size + 1
  | .sense sensor _ => sensor.size + 1
  | .call site => site.size + 1
  | .giveBack none _ | .read .. | .pen .. => 1

/-- The number of nodes of a block. -/
def Block.size : Block → Nat
  | ⟨stmts, _⟩ => stmtsSize stmts + 1

/-- The number of nodes of some statements. -/
def stmtsSize : List Stmt → Nat
  | [] => 0
  | s :: rest => s.size + stmtsSize rest

end

/-- The number of nodes of the bodies of some functions. -/
def functionsSize : List Function → Nat
  | [] => 0
  | function :: rest => function.body.size + functionsSize rest

/-- The number of nodes of the bodies of the declared functions. -/
def Declarations.size (declarations : Declarations) : Nat := functionsSize declarations.functions

lemma Expr.one_le_size (e : Expr) : 1 ≤ e.size := by
  cases e <;> simp [Expr.size]

lemma Stmt.one_le_size (s : Stmt) : 1 ≤ s.size := by
  cases s with
  | ifThen condition thenBlock elseBlock span => cases elseBlock <;> simp [Stmt.size]
  | giveBack value span => cases value <;> simp [Stmt.size]
  | _ => simp [Stmt.size]

lemma Call.size_eq (site : Call) : site.size = exprsSize site.args + 1 := by
  cases site
  rw [Call.size]

lemma Block.size_eq (block : Block) : block.size = stmtsSize block.stmts + 1 := by
  cases block
  rw [Block.size]

lemma body_size_le_functionsSize {function : Function} {functions : List Function}
    (mem : function ∈ functions) : function.body.size ≤ functionsSize functions := by
  induction mem with
  | head rest => exact Nat.le_add_right ..
  | tail other _ ih => exact Nat.le_add_left_of_le ih

/-! ## Computations that finish -/

namespace Eval

/-- A computation that comes to an end, whatever machine it starts with. -/
def Finishes {α : Type} (x : Eval α) : Prop := ∀ m, ∃ outcome n, x m = some (outcome, n)

namespace Finishes

variable {α β : Type}

lemma bind {x : Eval α} {f : α → Eval β} (first : Finishes x) (second : ∀ a, Finishes (f a)) :
    Finishes (x >>= f) := by
  intro m
  obtain ⟨fault | a, l, ran⟩ := first m
  · exact ⟨_, _, bind_of_error ran⟩
  · obtain ⟨outcome, n, ran'⟩ := second a l
    exact ⟨outcome, n, (bind_of_ok ran).trans ran'⟩

lemma ofExcept (outcome : Except Fault α) : Finishes (ofExcept outcome) := fun m => ⟨_, m, rfl⟩

lemma pure (a : α) : Finishes (pure a : Eval α) := ofExcept (.ok a)

lemma throw (fault : Fault) : Finishes (throw fault : Eval α) := ofExcept (.error fault)

lemma currentLine : Finishes currentLine := fun m => ⟨_, m, rfl⟩

lemma setLine (line : UInt32) : Finishes (setLine line) := fun _ => ⟨_, _, rfl⟩

lemma enterSpan (span : Span) : Finishes (enterSpan span) := by
  unfold Eval.enterSpan
  split
  · exact setLine _
  · exact pure ()

lemma lookup (name : String) : Finishes (lookup name) := fun m => ⟨_, m, rfl⟩

lemma slotOf (name : String) : Finishes (slotOf name) := fun m => ⟨_, m, rfl⟩

lemma newSlot (value : Value) : Finishes (newSlot value) := fun _ => ⟨_, _, rfl⟩

lemma define (name : String) (value : Value) : Finishes (define name value) :=
  fun _ => ⟨_, _, rfl⟩

lemma storeElement (name : String) (index : Int64) (element : Value) :
    Finishes (storeElement name index element) := by
  intro m
  unfold Eval.storeElement
  split
  · exact ⟨_, _, rfl⟩
  · exact ⟨_, _, rfl⟩

lemma label (text : String) : Finishes (label text) := fun _ => ⟨_, _, rfl⟩

lemma emit (here : Cursor) (text : String) : Finishes (emit here text) := fun _ => ⟨_, _, rfl⟩

lemma mark (here : Cursor) (text : String) : Finishes (mark here text) := fun _ => ⟨_, _, rfl⟩

end Finishes

/-! ## The induction -/

variable (functions : String → Option Function)

/-- Dry code comes to an end with so much fuel, if this is enough for its nodes.  An expression
takes three units of fuel for each of its nodes, and a list takes one more to look for its first
member and one more to find that there is none. -/
structure Finished (fuel : Nat) : Prop where
  expr : ∀ {here : Cursor}, here.phase = .dry → ∀ {e}, 3 * e.size ≤ fuel →
    Finishes (expr functions fuel here e)
  form : ∀ {here : Cursor}, here.phase = .dry → ∀ {e}, 3 * e.size ≤ fuel + 1 →
    Finishes (form functions fuel here e)
  sense : ∀ {here : Cursor}, here.phase = .dry → ∀ {sensor}, 3 * sensor.size ≤ fuel →
    Finishes (sense functions fuel here sensor)
  call : ∀ {here : Cursor}, here.phase = .dry → ∀ {site}, 3 * site.size ≤ fuel →
    Finishes (call functions fuel here site)
  arguments : ∀ {here : Cursor}, here.phase = .dry → ∀ {function params args},
    3 * exprsSize args + 2 ≤ fuel →
    Finishes (arguments functions fuel here function params args)
  argument : ∀ {here : Cursor}, here.phase = .dry → ∀ {function param arg},
    3 * arg.size + 1 ≤ fuel → Finishes (argument functions fuel here function param arg)
  numbers : ∀ {here : Cursor}, here.phase = .dry → ∀ {args}, 3 * exprsSize args + 2 ≤ fuel →
    Finishes (numbers functions fuel here args)
  stmts : ∀ {here : Cursor}, here.phase = .dry → ∀ {statements},
    3 * stmtsSize statements + 2 ≤ fuel → Finishes (stmts functions fuel here statements)
  stmt : ∀ {here : Cursor}, here.phase = .dry → ∀ {s}, 3 * s.size ≤ fuel →
    Finishes (stmt functions fuel here s)
  branch : ∀ {here : Cursor}, here.phase = .dry → ∀ {block taken}, 3 * block.size ≤ fuel →
    Finishes (branch functions fuel here block taken)
  firstRound : ∀ {here : Cursor}, here.phase = .dry → ∀ {condition body entered},
    3 * body.size ≤ fuel → Finishes (firstRound functions fuel here condition body entered)

namespace Finished

variable {functions} {fuel : Nat} {here : Cursor} (ih : Finished functions fuel)
  (dry : here.phase = .dry)

include ih dry

/-! ### Expressions -/

lemma expr_succ {e : Expr} (enough : 3 * e.size ≤ fuel + 1) :
    Finishes (Eval.expr functions (fuel + 1) here e) := by
  rw [Eval.expr]
  refine .bind .currentLine fun outer => .bind (.enterSpan _) fun _ => ?_
  exact .bind (ih.form dry enough) fun value => .bind (.setLine outer) fun _ => .pure value

lemma sense_succ {sensor : Sensor} (enough : 3 * sensor.size ≤ fuel + 1) :
    Finishes (Eval.sense functions (fuel + 1) here sensor) := by
  cases sensor with
  | look direction =>
    rw [Sensor.size] at enough
    rw [Eval.sense]
    refine .bind (ih.expr dry (by omega)) fun _ => ?_
    exact .bind (.ofExcept _) fun _ => .pure _
  | _ => exact .pure _

/-- The call itself is not made, so the function that is called does not matter. -/
lemma call_succ {site : Call} (enough : 3 * site.size ≤ fuel + 1) :
    Finishes (Eval.call functions (fuel + 1) here site) := by
  have stays : here.phase.executes = false := by rw [dry]; rfl
  rw [Call.size_eq] at enough
  cases declared : functions site.name.name with
  | none =>
    rw [call_of_undeclared functions declared]
    exact .throw _
  | some function =>
    rw [call_of_declared functions declared]
    split
    · exact .throw _
    · refine .bind (ih.arguments dry (by omega)) fun slots => .bind (.mark _ _) fun _ => ?_
      rw [stays]
      exact .pure _

lemma argument_succ {function : Function} {param : Param} {arg : Expr}
    (enough : 3 * arg.size + 1 ≤ fuel + 1) :
    Finishes (Eval.argument functions (fuel + 1) here function param arg) := by
  rw [Eval.argument]
  split
  · cases arg.variableName? with
    | none => exact .throw _
    | some name =>
      refine .bind (.slotOf name) fun found => ?_
      cases found with
      | some slot => exact .pure slot
      | none => exact .newSlot _
  · exact .bind (ih.expr dry (by omega)) fun value => .newSlot value

lemma arguments_succ {function : Function} {params : List Param} {args : List Expr}
    (enough : 3 * exprsSize args + 2 ≤ fuel + 1) :
    Finishes (Eval.arguments functions (fuel + 1) here function params args) := by
  unfold Eval.arguments
  cases params with
  | nil => exact .pure []
  | cons param params =>
    cases args with
    | nil => exact .pure []
    | cons arg args =>
      have size := arg.one_le_size
      rw [exprsSize] at enough
      refine .bind (ih.argument dry (by omega)) fun slot => ?_
      exact .bind (ih.arguments dry (by omega)) fun slots => .pure _

lemma numbers_succ {args : List Expr} (enough : 3 * exprsSize args + 2 ≤ fuel + 1) :
    Finishes (Eval.numbers functions (fuel + 1) here args) := by
  cases args with
  | nil => exact .pure []
  | cons arg args =>
    have size := arg.one_le_size
    rw [exprsSize] at enough
    rw [Eval.numbers]
    refine .bind (ih.expr dry (by omega)) fun _ => .bind (.ofExcept _) fun _ => ?_
    exact .bind (ih.numbers dry (by omega)) fun _ => .pure _

lemma form_succ {e : Expr} (enough : 3 * e.size ≤ fuel + 1 + 1) :
    Finishes (Eval.form functions (fuel + 1) here e) := by
  cases e with
  | integer n span => exact .pure _
  | boolean b span => exact .pure _
  | string s span => exact .pure _
  | color c span => exact .pure _
  | var name span =>
    rw [Eval.form]
    exact .bind (.lookup name) fun _ => .bind (.ofExcept _) fun _ => .pure _
  | element array index span =>
    rw [Expr.size] at enough
    rw [Eval.form]
    refine .bind (ih.expr dry (by omega)) fun _ => .bind (.ofExcept _) fun _ => ?_
    refine .bind (.lookup array.name) fun _ => .bind (.ofExcept _) fun _ => ?_
    exact .bind (.ofExcept _) fun _ => .pure _
  | call site span =>
    rw [Expr.size] at enough
    rw [Eval.form]
    refine .bind (ih.call dry (by omega)) fun value => ?_
    split
    · exact .bind (.throw _) fun _ => .pure _
    · exact .pure _
  | sense sensor span =>
    rw [Expr.size] at enough
    rw [Eval.form]
    exact ih.sense dry (by omega)
  | binary left op right span =>
    rw [Expr.size] at enough
    have first := ih.expr dry (e := left) (by omega)
    have second := ih.expr dry (e := right) (by omega)
    cases op with
    | logical op =>
      rw [Eval.form]
      refine .bind first fun lhs => .bind (.ofExcept _) fun l => ?_
      split
      · exact .pure _
      · exact .bind second fun _ => .bind (.ofExcept _) fun _ => .pure _
    | arithmetic op =>
      rw [Eval.form]
      exact .bind first fun _ => .bind second fun _ => .ofExcept _
    | relational op =>
      rw [Eval.form]
      exact .bind first fun _ => .bind second fun _ => .ofExcept _
    | bitwise op =>
      rw [Eval.form]
      exact .bind first fun _ => .bind second fun _ => .ofExcept _
  | unary op operand span =>
    rw [Expr.size] at enough
    rw [Eval.form]
    exact .bind (ih.expr dry (by omega)) fun _ => .ofExcept _
  | paren inner span =>
    rw [Expr.size] at enough
    rw [Eval.form]
    exact .bind (ih.expr dry (by omega)) fun _ => .pure _

/-! ### Statements -/

lemma stmts_succ {statements : List Stmt} (enough : 3 * stmtsSize statements + 2 ≤ fuel + 1) :
    Finishes (Eval.stmts functions (fuel + 1) here statements) := by
  cases statements with
  | nil => exact .pure none
  | cons s rest =>
    have size := s.one_le_size
    rw [stmtsSize] at enough
    rw [stmts_cons_of_dry functions dry]
    exact .bind (ih.stmt dry (by omega)) fun _ => ih.stmts dry (by omega)

/-- The body of a block is written once, whether it is a branch or the body of a loop. -/
lemma block {block : Block} (enough : 3 * block.size ≤ fuel + 1) :
    Finishes (do
      let _ ← Eval.stmts functions fuel here.deeper block.stmts
      return (none : Flow)) := by
  have inside : here.deeper.phase = .dry := dry
  rw [Block.size_eq] at enough
  exact .bind (ih.stmts inside (by omega)) fun _ => .pure none

lemma branch_succ {block : Block} {taken : Bool} (enough : 3 * block.size ≤ fuel + 1) :
    Finishes (Eval.branch functions (fuel + 1) here block taken) := by
  rw [branch_of_dry functions dry]
  exact ih.block dry enough

lemma firstRound_succ {condition : Expr} {body : Block} {entered : Bool}
    (enough : 3 * body.size ≤ fuel + 1) :
    Finishes (Eval.firstRound functions (fuel + 1) here condition body entered) := by
  rw [firstRound_of_dry functions dry]
  exact ih.block dry enough

lemma assign_succ {target : Target} {value : Expr} {span : Span}
    (enough : 3 * (Stmt.assign target value span).size ≤ fuel + 1) :
    Finishes (Eval.stmt functions (fuel + 1) here (.assign target value span)) := by
  rw [Stmt.size] at enough
  cases target with
  | var target =>
    rw [Eval.stmt]
    refine .bind (.enterSpan _) fun _ => .bind (ih.expr dry (by omega)) fun _ => ?_
    exact .bind (.emit _ _) fun _ => .bind (.define _ _) fun _ => .pure none
  | element array index =>
    rw [Target.size] at enough
    rw [Eval.stmt]
    refine .bind (.enterSpan _) fun _ => .bind (ih.expr dry (by omega)) fun _ => ?_
    refine .bind (ih.expr dry (by omega)) fun _ => .bind (.ofExcept _) fun _ => ?_
    refine .bind (.emit _ _) fun _ => .bind (.storeElement _ _ _) fun _ => ?_
    exact .bind (.ofExcept _) fun _ => .pure none

lemma ifThen_succ {condition : Expr} {thenBlock : Block} {elseBlock : Option Block} {span : Span}
    (enough : 3 * (Stmt.ifThen condition thenBlock elseBlock span).size ≤ fuel + 1) :
    Finishes (Eval.stmt functions (fuel + 1) here
      (.ifThen condition thenBlock elseBlock span)) := by
  have parts : condition.size + thenBlock.size + 1 ≤
        (Stmt.ifThen condition thenBlock elseBlock span).size ∧
      ∀ block ∈ elseBlock, block.size + 1 ≤
        (Stmt.ifThen condition thenBlock elseBlock span).size := by
    cases elseBlock with
    | none => simp [Stmt.size]
    | some block =>
      simp only [Stmt.size, Option.mem_def, Option.some.injEq, forall_eq']
      omega
  obtain ⟨first, second⟩ := parts
  have other : ∀ taken flow,
      Finishes (secondBranch functions fuel here elseBlock taken flow) := by
    intro taken flow
    cases elseBlock with
    | none => exact .pure flow
    | some block =>
      have size := second block rfl
      refine .bind (.emit _ _) fun _ => ?_
      exact .bind (ih.branch dry (by omega)) fun _ => .pure _
  rw [Eval.stmt_ifThen]
  refine .bind (.enterSpan _) fun _ => .bind (ih.expr dry (by omega)) fun _ => ?_
  refine .bind (.ofExcept _) fun taken => .bind (.emit _ _) fun _ => ?_
  refine .bind (ih.branch dry (by omega)) fun flow => .bind (other taken flow) fun _ => ?_
  exact .bind (.emit _ _) fun _ => .pure _

lemma whileDo_succ {condition : Expr} {body : Block} {span : Span}
    (enough : 3 * (Stmt.whileDo condition body span).size ≤ fuel + 1) :
    Finishes (Eval.stmt functions (fuel + 1) here (.whileDo condition body span)) := by
  rw [Stmt.size] at enough
  rw [Eval.stmt]
  refine .bind (.enterSpan _) fun _ => .bind (ih.expr dry (by omega)) fun _ => ?_
  refine .bind (.ofExcept _) fun _ => .bind (.emit _ _) fun _ => ?_
  refine .bind (ih.firstRound dry (by omega)) fun _ => ?_
  exact .bind (.emit _ _) fun _ => .pure _

lemma stmt_succ {s : Stmt} (enough : 3 * s.size ≤ fuel + 1) :
    Finishes (Eval.stmt functions (fuel + 1) here s) := by
  cases s with
  | assign target value span => exact ih.assign_succ dry enough
  | ifThen condition thenBlock elseBlock span => exact ih.ifThen_succ dry enough
  | whileDo condition body span => exact ih.whileDo_succ dry enough
  | giveBack value span =>
    cases value with
    | none =>
      rw [Eval.stmt]
      exact .bind (.enterSpan _) fun _ => .bind (.emit _ _) fun _ => .pure _
    | some value =>
      rw [Stmt.size] at enough
      rw [Eval.stmt]
      refine .bind (.enterSpan _) fun _ => .bind (ih.expr dry (by omega)) fun _ => ?_
      exact .bind (.emit _ _) fun _ => .pure _
  | read target span =>
    have stays : here.phase.executes = false := by rw [dry]; rfl
    rw [Eval.stmt]
    simp only [stays]
    exact .bind (.enterSpan _) fun _ => .bind (.define _ _) fun _ => .pure none
  | write value span =>
    rw [Stmt.size] at enough
    rw [Eval.stmt]
    refine .bind (.enterSpan _) fun _ => .bind (ih.expr dry (by omega)) fun _ => ?_
    exact .bind (.emit _ _) fun _ => .pure none
  | actuate actuator args span =>
    rw [Stmt.size] at enough
    rw [Eval.stmt]
    refine .bind (.enterSpan _) fun _ => .bind (ih.numbers dry (by omega)) fun _ => ?_
    exact .bind (.emit _ _) fun _ => .pure none
  | paint color span =>
    rw [Stmt.size] at enough
    rw [Eval.stmt]
    refine .bind (.enterSpan _) fun _ => .bind (ih.expr dry (by omega)) fun _ => ?_
    exact .bind (.ofExcept _) fun _ => .bind (.emit _ _) fun _ => .pure none
  | pen down span =>
    rw [Eval.stmt]
    exact .bind (.enterSpan _) fun _ => .bind (.emit _ _) fun _ => .pure none
  | sense sensor span =>
    rw [Stmt.size] at enough
    rw [Eval.stmt]
    refine .bind (.enterSpan _) fun _ => .bind (ih.sense dry (by omega)) fun _ => ?_
    exact .bind (.emit _ _) fun _ => .pure none
  | call site =>
    rw [Stmt.size] at enough
    rw [Eval.stmt]
    exact .bind (.enterSpan _) fun _ => .bind (ih.call dry (by omega)) fun _ => .pure none

end Finished

/-- **Dry code comes to an end** with fuel for each of its nodes. -/
theorem finished (fuel : Nat) : Finished functions fuel := by
  induction fuel with
  | zero =>
    exact {
      expr := fun _ e enough => absurd enough (by have := e.one_le_size; omega)
      form := fun _ e enough => absurd enough (by have := e.one_le_size; omega)
      sense := fun _ sensor enough => absurd enough (by cases sensor <;> simp [Sensor.size])
      call := fun _ site enough => absurd enough (by rw [Call.size_eq]; omega)
      arguments := fun _ _ _ _ enough => absurd enough (by omega)
      argument := fun _ _ _ _ enough => absurd enough (by omega)
      numbers := fun _ _ enough => absurd enough (by omega)
      stmts := fun _ _ enough => absurd enough (by omega)
      stmt := fun _ s enough => absurd enough (by have := s.one_le_size; omega)
      branch := fun _ block _ enough => absurd enough (by rw [Block.size_eq]; omega)
      firstRound := fun _ _ body _ enough => absurd enough (by rw [Block.size_eq]; omega) }
  | succ fuel ih =>
    exact {
      expr := ih.expr_succ
      form := ih.form_succ
      sense := ih.sense_succ
      call := ih.call_succ
      arguments := ih.arguments_succ
      argument := ih.argument_succ
      numbers := ih.numbers_succ
      stmts := ih.stmts_succ
      stmt := ih.stmt_succ
      branch := ih.branch_succ
      firstRound := ih.firstRound_succ }

end Eval

/-! ## Preparing functions -/

namespace Session

open Eval

variable {functions : String → Option Function} {fuel : Nat}

lemma finishes_defineStandIns (params : List Param) : Finishes (defineStandIns params) := by
  induction params with
  | nil => exact .pure ()
  | cons param rest ih => exact .bind (.define _ _) fun _ => ih

lemma finishes_prepareAll (list : List Function)
    (enough : ∀ function ∈ list, 3 * function.body.size ≤ fuel) :
    Finishes (prepareAll functions fuel list) := by
  induction list with
  | nil => exact .pure ()
  | cons function rest ih =>
    have size := enough function List.mem_cons_self
    rw [Block.size_eq] at size
    have dry : (Cursor.top .dry).deeper.phase = .dry := rfl
    have body : Finishes (stmts functions fuel (Cursor.top .dry).deeper function.body.stmts) :=
      (finished functions fuel).stmts dry (by omega)
    have written : Finishes (writeBlock functions fuel function) :=
      .bind (finishes_defineStandIns _) fun _ => .bind body fun _ => .pure ()
    rw [prepareAll, prepareFunction_eq]
    refine .bind ?_ fun _ => ih fun other mem => enough other (List.mem_cons_of_mem _ mem)
    refine .bind (.label _) fun _ => ?_
    refine .bind (fun m => ⟨_, _, enterBlock_apply function m⟩) fun _ => ?_
    exact .bind written fun _ => .bind (fun m => ⟨_, _, popFrame_apply⟩) fun _ => .label _

lemma repeats_defineStandIns (params : List Param) :
    Repeats (fun s t => s = t) (defineStandIns params) (defineStandIns params) := by
  induction params with
  | nil => exact .pure ()
  | cons param rest ih => exact .bind (.define _ _) fun _ => ih

/-- Preparing functions comes to the same with more fuel. -/
lemma repeats_prepareAll (extra : Nat) (list : List Function) :
    Repeats (fun s t => s = t) (prepareAll functions fuel list)
      (prepareAll functions (fuel + extra) list) := by
  induction list with
  | nil => exact .pure ()
  | cons function rest ih =>
    have body : Repeats (fun s t => s = t)
        (stmts functions fuel (Cursor.top .dry).deeper function.body.stmts)
        (stmts functions (fuel + extra) (Cursor.top .dry).deeper function.body.stmts) :=
      (Repeats.everywhere appends_eq functions extra fuel).stmts ⟨rfl, rfl⟩ _
    refine .bind (.bind (.label appends_eq _) fun _ => .bind .currentLine fun _ => ?_) fun _ => ih
    refine .bind (.pushFrame _ _) fun _ => .bind (.setLine _) fun _ => ?_
    refine .bind (repeats_defineStandIns _) fun _ => .bind body fun _ => ?_
    exact .bind .popFrame fun _ => .label appends_eq _

/-- No function to prepare has more nodes than all functions together. -/
lemma size_le_of_preparable {s : Session} {function : Function} (mem : function ∈ s.preparable) :
    function.body.size ≤ s.declarations.size :=
  body_size_le_functionsSize (List.mem_of_mem_filter mem)

end Session

/-! ## Dry code as a whole -/

open Eval in
/-- **Dry code comes to an end**, in every program and from every machine, and so do all
preparations.  Three units of fuel for each node are enough, and with so many or more it comes to
one and the same end. -/
theorem dry_code_terminates :
    (∀ functions (here : Cursor) e m, here.phase = .dry →
      ∃ stop, ∀ fuel, 3 * e.size ≤ fuel → expr functions fuel here e m = some stop) ∧
    (∀ functions (here : Cursor) statements m, here.phase = .dry →
      ∃ stop, ∀ fuel, 3 * stmtsSize statements + 2 ≤ fuel →
        stmts functions fuel here statements m = some stop) ∧
    (∀ s : Session, ∃ stop, ∀ fuel, 3 * s.declarations.size ≤ fuel →
      s.prepare fuel = some stop) := by
  refine ⟨fun functions here e m dry => ?_, fun functions here statements m dry => ?_,
    fun s => ?_⟩
  · obtain ⟨outcome, n, ran⟩ := (finished functions _).expr dry (Nat.le_refl (3 * e.size)) m
    exact ⟨_, fun fuel enough => expr_of_le functions enough ran⟩
  · obtain ⟨outcome, n, ran⟩ :=
      (finished functions _).stmts dry (Nat.le_refl (3 * stmtsSize statements + 2)) m
    exact ⟨_, fun fuel enough => stmts_of_le functions enough ran⟩
  · cases prepared : s.prepared with
    | true => exact ⟨_, fun fuel _ => Session.prepare_of_prepared prepared fuel⟩
    | false =>
      have finishes : Finishes (Session.prepareAll s.declarations.find? (3 * s.declarations.size)
          s.preparable) := Session.finishes_prepareAll _ fun _ mem =>
        Nat.mul_le_mul_left 3 (Session.size_le_of_preparable mem)
      obtain ⟨outcome, n, ran⟩ := finishes s.machine
      refine ⟨(outcome.mapError (LocatedFault.mk · n.line),
        { s with prepared := true, machine := n }), fun fuel enough => ?_⟩
      obtain ⟨extra, rfl⟩ := Nat.exists_eq_add_of_le enough
      rw [Session.prepare, prepared, if_neg Bool.false_ne_true]
      have ran' := Repeats.eq_some (Session.repeats_prepareAll extra s.preparable) ran
      exact Session.perform_eq_some.mpr ⟨outcome, n, ran', rfl, rfl⟩

/-- A function that goes round a loop for ever, and one that calls it back. -/
def spinning : Program where
  functions :=
    [⟨⟨"main", .unknown⟩, [], none,
      ⟨[.call ⟨⟨"spin", .unknown⟩, [], .unknown⟩], .unknown⟩, .ofLine 1⟩,
     ⟨⟨"spin", .unknown⟩, [], some .integer,
      ⟨[.whileDo (.boolean true .unknown)
        ⟨[.write (.call ⟨⟨"back", .unknown⟩, [], .unknown⟩ .unknown) .unknown], .unknown⟩
        .unknown], .unknown⟩, .ofLine 4⟩,
     ⟨⟨"back", .unknown⟩, [], some .integer,
      ⟨[.giveBack (some (.call ⟨⟨"spin", .unknown⟩, [], .unknown⟩ .unknown)) .unknown],
        .unknown⟩, .ofLine 9⟩]
  span := .unknown

/-- The session of that program. -/
def spun : Session :=
  ⟨⟨spinning.functions⟩, .standard, false, Session.initialMachine ⟨[], []⟩ none⟩

open Eval in
/-- The functions are prepared although they could not be run. -/
theorem dry_code_terminates_spinning :
    (spun.run 60).isNone = true ∧
    (∃ stop, (∀ fuel, 3 * spun.declarations.size ≤ fuel → spun.prepare fuel = some stop) ∧
      stop.1.isOk = true ∧
      stop.2.lines = ["spin:", "  while true", "    back()", "    print back()", "  wend", "Return",
        "back:", "  spin()", "  Return spin()", "Return"]) ∧
    (∃ stop, ∀ fuel, 6 ≤ fuel → expr spun.declarations.find? fuel ⟨1, .dry⟩
      (.call ⟨⟨"back", .unknown⟩, [], .unknown⟩ .unknown) spun.machine = some stop) ∧
    (∃ stop, ∀ fuel, 8 ≤ fuel → stmts spun.declarations.find? fuel ⟨1, .dry⟩
      [.call ⟨⟨"spin", .unknown⟩, [], .unknown⟩] spun.machine = some stop) := by
  obtain ⟨stop, ends⟩ := dry_code_terminates.2.2 spun
  have prepares : (spun.prepare (3 * spun.declarations.size)).map
      (fun stop => (stop.1.isOk, stop.2.lines)) =
      some (true, ["spin:", "  while true", "    back()", "    print back()", "  wend", "Return",
        "back:", "  spin()", "  Return spin()", "Return"]) := by
    decide +kernel
  rw [ends _ (Nat.le_refl _)] at prepares
  obtain ⟨isOk, lines⟩ := Prod.mk.inj (Option.some.inj prepares)
  obtain ⟨stop', ends'⟩ := dry_code_terminates.1 spun.declarations.find? ⟨1, .dry⟩
    (.call ⟨⟨"back", .unknown⟩, [], .unknown⟩ .unknown) spun.machine rfl
  obtain ⟨stop'', ends''⟩ := dry_code_terminates.2.1 spun.declarations.find? ⟨1, .dry⟩
    [.call ⟨⟨"spin", .unknown⟩, [], .unknown⟩] spun.machine rfl
  refine ⟨by decide +kernel, ⟨stop, ends, isOk, lines⟩, ⟨stop', fun fuel enough => ?_⟩,
    ⟨stop'', fun fuel enough => ?_⟩⟩
  · exact ends' fuel enough
  · exact ends'' fuel (by simpa [stmtsSize, Stmt.size, Call.size, exprsSize] using enough)

end RobotScribe
