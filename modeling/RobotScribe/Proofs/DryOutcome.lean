/-
# What dry code comes to

Dry code looks at stand-ins as much as at data, so nothing can be said about the values that it
computes.  Still three things are certain about it.  It comes to an end, however long the loops
and however deep the recursion of the program, since it goes through its syntax once.  What can
stop it is a call in it that does not fit, or a value of a wrong kind: all that may come from data
is answered by stand-ins.  And if it comes to a result, it has written the lines of its syntax.

All three are shown by one induction, for computations that settle (`Settles`).
-/
import RobotScribe.Proofs.Rendering
import RobotScribe.Proofs.Serialization
import RobotScribe.Proofs.Settling

namespace RobotScribe

open Eval

/-! ## What the parts of dry code write -/

section

variable (depth : Nat)

/-- The lines that evaluating an expression writes, and the text of its value. -/
def WritesExpr (e : Expr) (lines : List Entry) (text : String) : Prop :=
  ∃ e', Trims e e' ∧ lines = markers depth e'.calls ∧ text = e'.text

/-- The lines that reading a sensor writes, and the text of the reading. -/
def WritesSensor (sensor : Sensor) (lines : List Entry) (text : String) : Prop :=
  ∃ sensor', TrimsSensor sensor sensor' ∧ lines = markers depth sensor'.calls ∧
    text = sensor'.text

/-- The lines that a call writes. -/
def WritesCall (site : Call) (lines : List Entry) : Prop :=
  ∃ site', TrimsCall site site' ∧ lines = markers depth site'.calls

/-- The lines that evaluating some expressions writes, and their texts. -/
def WritesExprs (es : List Expr) (lines : List Entry) (texts : List String) : Prop :=
  ∃ es', TrimsAll es es' ∧ lines = markers depth (callsOf es') ∧ texts = es'.map Expr.text

/-- The lines that a statement writes. -/
def WritesStmt (s : Stmt) (lines : List Entry) : Prop :=
  ∃ s', TrimsStmt s s' ∧ lines = s'.lines depth

/-- The lines that some statements write. -/
def WritesStmts (statements : List Stmt) (lines : List Entry) : Prop :=
  ∃ statements', TrimsStmts statements statements' ∧ lines = linesOf depth statements'

/-- The lines that a block writes, one level deeper. -/
def WritesBlock (block : Block) (lines : List Entry) : Prop :=
  ∃ block', TrimsBlock block block' ∧ lines = block'.lines (depth + 1)

/-- The lines that an optional second branch writes. -/
def WritesElse (elseBlock : Option Block) (lines : List Entry) : Prop :=
  ∃ elseBlock', TrimsElse elseBlock elseBlock' ∧ lines = elseLines depth elseBlock'

end

@[simp] lemma markers_append (depth : Nat) (names names' : List String) :
    markers depth (names ++ names') = markers depth names ++ markers depth names' :=
  List.map_append

/-! ## Sizes -/

lemma Span.one_le_sizeOf (span : Span) : 1 ≤ sizeOf span := by
  obtain ⟨_, _, _, _⟩ := span
  simp only [Span.mk.sizeOf_spec]
  omega

lemma one_le_sizeOf_list {α : Type} [SizeOf α] (items : List α) : 1 ≤ sizeOf items := by
  cases items with
  | nil => simp
  | cons item rest =>
    simp only [List.cons.sizeOf_spec]
    omega

/-- The span of an expression is a part of its size. -/
lemma Expr.two_le_sizeOf (e : Expr) : 2 ≤ sizeOf e := by
  have size := e.span.one_le_sizeOf
  cases e <;> simp only [Expr.span] at size <;> simp <;> omega

lemma Sensor.one_le_sizeOf (sensor : Sensor) : 1 ≤ sizeOf sensor := by
  cases sensor <;> simp

lemma Call.one_le_sizeOf (site : Call) : 1 ≤ sizeOf site := by
  cases site
  simp only [Call.mk.sizeOf_spec]
  omega

lemma Stmt.one_le_sizeOf (s : Stmt) : 1 ≤ sizeOf s := by
  cases s <;> simp <;> omega

lemma Block.one_le_sizeOf (block : Block) : 1 ≤ sizeOf block := by
  cases block
  simp only [Block.mk.sizeOf_spec]
  omega

lemma Block.sizeOf_stmts_lt (block : Block) : sizeOf block.stmts < sizeOf block := by
  cases block
  simp only [Block.mk.sizeOf_spec]
  omega

/-! ## The induction -/

variable (functions : String → Option Function)

/-- A value stands in for the result of a call of a declared function. -/
def StandsFor (site : Call) (value : Value) : Prop :=
  ∃ function, functions site.name.name = some function ∧
    value = callStandIn function (Text.callForm site.name.name)

/-- No value stands in for the result of a function only if the function is declared so. -/
lemma returns_of_isVoid_callStandIn {function : Function} {text : String}
    (isVoid : (callStandIn function text).isVoid = true) : function.returns = some .void := by
  have kind : (callStandIn function text).kind = .void := by
    rw [Value.kind, Value.isVoid_iff.mp isVoid]
    rfl
  rw [callStandIn, Value.kind_standIn] at kind
  cases returns : function.returns with
  | none =>
    rw [returns] at kind
    cases kind
  | some result =>
    rw [returns] at kind
    exact congrArg some kind

/-- Dry code settles, with so much fuel.  As much fuel as the syntax is large is enough, and only
its own calls can stop it. -/
structure Settled (fuel : Nat) : Prop where
  expr : ∀ {here : Cursor}, here.phase = .dry → ∀ e,
    Settles (Misfits functions e.Makes) (sizeOf e ≤ fuel)
      (fun lines value => WritesExpr here.depth e lines value.text) (expr functions fuel here e)
  form : ∀ {here : Cursor}, here.phase = .dry → ∀ e,
    Settles (Misfits functions e.Makes) (sizeOf e ≤ fuel + 1)
      (fun lines value => WritesExpr here.depth e lines value.text) (form functions fuel here e)
  sense : ∀ {here : Cursor}, here.phase = .dry → ∀ sensor,
    Settles (Misfits functions sensor.Makes) (sizeOf sensor ≤ fuel)
      (fun lines value => WritesSensor here.depth sensor lines value.text)
      (sense functions fuel here sensor)
  call : ∀ {here : Cursor}, here.phase = .dry → ∀ site,
    Settles (Misfits functions site.Makes) (sizeOf site ≤ fuel)
      (fun lines value => WritesCall here.depth site lines ∧ StandsFor functions site value)
      (call functions fuel here site)
  arguments : ∀ {here : Cursor}, here.phase = .dry → ∀ {site : Call} {function : Function},
    functions site.name.name = some function → ∀ params args,
    params.zip args ⊆ function.params.zip site.args → args.length = params.length →
    Settles (Misfits functions site.Makes) (sizeOf args ≤ fuel)
      (fun lines _ => ∃ texts, WritesExprs here.depth args lines texts)
      (arguments functions fuel here function params args)
  argument : ∀ {here : Cursor}, here.phase = .dry → ∀ {site : Call} {function : Function},
    functions site.name.name = some function → ∀ param arg,
    (param, arg) ∈ function.params.zip site.args →
    Settles (Misfits functions site.Makes) (sizeOf arg + 1 ≤ fuel)
      (fun lines _ => ∃ text, WritesExpr here.depth arg lines text)
      (argument functions fuel here function param arg)
  numbers : ∀ {here : Cursor}, here.phase = .dry → ∀ args,
    Settles (Misfits functions (MakesAmong args)) (sizeOf args ≤ fuel)
      (fun lines texts => WritesExprs here.depth args lines texts)
      (numbers functions fuel here args)
  stmts : ∀ {here : Cursor}, here.phase = .dry → ∀ statements,
    Settles (Misfits functions (MakesIn statements)) (sizeOf statements ≤ fuel)
      (fun lines _ => WritesStmts here.depth statements lines)
      (stmts functions fuel here statements)
  stmt : ∀ {here : Cursor}, here.phase = .dry → ∀ s,
    Settles (Misfits functions s.Makes) (sizeOf s ≤ fuel)
      (fun lines _ => WritesStmt here.depth s lines) (stmt functions fuel here s)
  branch : ∀ {here : Cursor}, here.phase = .dry → ∀ block taken,
    Settles (Misfits functions (MakesIn block.stmts)) (sizeOf block ≤ fuel)
      (fun lines _ => WritesBlock here.depth block lines)
      (branch functions fuel here block taken)
  firstRound : ∀ {here : Cursor}, here.phase = .dry → ∀ condition body entered,
    Settles (Misfits functions (MakesIn body.stmts)) (sizeOf body ≤ fuel)
      (fun lines _ => WritesBlock here.depth body lines)
      (firstRound functions fuel here condition body entered)

namespace Settled

variable {functions} {fuel : Nat} {here : Cursor} (ih : Settled functions fuel)
  (dry : here.phase = .dry)

include ih dry

/-! ## Expressions -/

lemma expr_succ (e : Expr) :
    Settles (Misfits functions e.Makes) (sizeOf e ≤ fuel + 1)
      (fun lines value => WritesExpr here.depth e lines value.text)
      (Eval.expr functions (fuel + 1) here e) := by
  rw [Eval.expr]
  refine .after_currentLine fun outer => .after_enterSpan (.bind (ih.form dry e) ?_)
  intro value lines written
  exact .after_setLine (.pure (by simpa using written))

/-- A first expression, which is part of the code, and what is done with its value. -/
lemma after_expr {β : Type} {enough : Prop} {makes : Call → Bool → Prop}
    {Q : List Entry → β → Prop} {f : Value → Eval β} {e : Expr}
    (made : ∀ {site used}, e.Makes site used → makes site used) (fits : enough → sizeOf e ≤ fuel)
    (second : ∀ value e', Trims e e' → value.text = e'.text →
      Settles (Misfits functions makes) enough
        (fun lines b => Q (markers here.depth e'.calls ++ lines) b) (f value)) :
    Settles (Misfits functions makes) enough Q (Eval.expr functions fuel here e >>= f) := by
  refine .bind ((ih.expr dry e).within (Misfits.imp made) fits) ?_
  rintro value _ ⟨e', trims, rfl, text⟩
  exact second value e' trims text

lemma sense_succ (sensor : Sensor) :
    Settles (Misfits functions sensor.Makes) (sizeOf sensor ≤ fuel + 1)
      (fun lines value => WritesSensor here.depth sensor lines value.text)
      (Eval.sense functions (fuel + 1) here sensor) := by
  cases sensor with
  | look direction =>
    rw [Eval.sense]
    refine ih.after_expr dry .look (fun enough => ?_) fun value direction' trims text => ?_
    · simp only [Sensor.look.sizeOf_spec] at enough
      omega
    refine .after_test (fun _ => Value.expectInt_error) fun _ _ => .pure ?_
    refine ⟨.look direction', .look trims, by simp [Sensor.calls], ?_⟩
    simp [Sensor.text, text]
  | feel | infrared | bumper | compass | beacon color =>
    exact .pure ⟨_, .same _, rfl, rfl⟩

lemma numbers_succ (args : List Expr) :
    Settles (Misfits functions (MakesAmong args)) (sizeOf args ≤ fuel + 1)
      (fun lines texts => WritesExprs here.depth args lines texts)
      (Eval.numbers functions (fuel + 1) here args) := by
  cases args with
  | nil => exact .pure ⟨[], .nil, rfl, rfl⟩
  | cons arg args =>
    rw [Eval.numbers]
    refine ih.after_expr dry .head (fun enough => ?_) fun value arg' trims text => ?_
    · simp only [List.cons.sizeOf_spec] at enough
      omega
    refine .after_test (fun _ => Value.expectInt_error) fun _ _ => ?_
    refine .bind ((ih.numbers dry args).within (Misfits.imp .tail) fun enough => ?_) ?_
    · simp only [List.cons.sizeOf_spec] at enough
      omega
    rintro texts _ ⟨args', all, rfl, rfl⟩
    exact .pure ⟨arg' :: args', .cons trims all, by simp [callsOf], by simp [text]⟩

lemma argument_succ {site : Call} {function : Function}
    (declared : functions site.name.name = some function) (param : Param) (arg : Expr)
    (given : (param, arg) ∈ function.params.zip site.args) :
    Settles (Misfits functions site.Makes) (sizeOf arg + 1 ≤ fuel + 1)
      (fun lines _ => ∃ text, WritesExpr here.depth arg lines text)
      (Eval.argument functions (fuel + 1) here function param arg) := by
  rw [Eval.argument]
  split
  · next reference =>
    -- a variable is handed over as it is, and makes no calls
    cases arg with
    | var name span =>
      have written : ∃ text, WritesExpr here.depth (.var name span) [] text :=
        ⟨name, _, .same _, rfl, rfl⟩
      refine .after (fun m => m.memory.slot? name) id (fun _ => rfl) (fun _ => rfl) fun found => ?_
      cases found with
      | some slot => exact .pure written
      | none =>
        dsimp only
        exact .newSlot _ fun _ => written
    | _ => exact .throw (Or.inr ⟨site, false, .self site, .argument declared given reference rfl⟩)
  · have mem : arg ∈ site.args := (List.of_mem_zip given).2
    refine ih.after_expr dry (.argument mem) (fun enough => ?_) fun value arg' trims text => ?_
    · omega
    exact .newSlot value fun _ => ⟨_, arg', trims, by simp, rfl⟩

lemma arguments_succ {site : Call} {function : Function}
    (declared : functions site.name.name = some function) (params : List Param) (args : List Expr)
    (given : params.zip args ⊆ function.params.zip site.args)
    (arity : args.length = params.length) :
    Settles (Misfits functions site.Makes) (sizeOf args ≤ fuel + 1)
      (fun lines _ => ∃ texts, WritesExprs here.depth args lines texts)
      (Eval.arguments functions (fuel + 1) here function params args) := by
  unfold Eval.arguments
  cases args with
  | nil =>
    cases params with
    | nil => exact .pure ⟨[], [], .nil, rfl, rfl⟩
    | cons param params => cases arity
  | cons arg args =>
    cases params with
    | nil => cases arity
    | cons param params =>
      rw [List.zip_cons_cons] at given
      obtain ⟨here, there⟩ := List.cons_subset.mp given
      have first := ih.argument dry declared param arg here
      have others := ih.arguments dry declared params args there (Nat.succ.inj arity)
      refine .bind (first.le fun enough => ?_) ?_
      · have last := one_le_sizeOf_list args
        simp only [List.cons.sizeOf_spec] at enough
        omega
      rintro slot _ ⟨_, arg', trims, rfl, rfl⟩
      refine .bind (others.le fun enough => ?_) ?_
      · simp only [List.cons.sizeOf_spec] at enough
        omega
      rintro slots _ ⟨_, args', all, rfl, rfl⟩
      exact .pure ⟨_, arg' :: args', .cons trims all, by simp [callsOf], rfl⟩

lemma call_succ (site : Call) :
    Settles (Misfits functions site.Makes) (sizeOf site ≤ fuel + 1)
      (fun lines value => WritesCall here.depth site lines ∧ StandsFor functions site value)
      (Eval.call functions (fuel + 1) here site) := by
  obtain ⟨name, args, span⟩ := site
  cases declared : functions name.name with
  | none =>
    rw [call_of_undeclared functions declared]
    exact .throw (Or.inr ⟨_, false, .self _, .undeclared declared⟩)
  | some function =>
    rw [call_of_declared functions declared]
    split
    · next differ => exact .throw (Or.inr ⟨_, false, .self _, .arity declared differ⟩)
    · next arity =>
      have named : functions (Call.mk name args span).name.name = some function := declared
      have gathered := ih.arguments dry named function.params args (List.Subset.refl _)
        (not_not.mp arity)
      refine .bind (gathered.le fun enough => ?_) ?_
      · simp only [Call.mk.sizeOf_spec] at enough
        omega
      rintro slots _ ⟨_, args', all, rfl, -⟩
      refine .bind (P := fun lines _ => lines = markers here.depth [name.name])
        (.mark here _ rfl) ?_
      rintro ⟨⟩ _ rfl
      have written : WritesCall here.depth ⟨name, args, span⟩
          (markers here.depth (callsOf args') ++ (markers here.depth [name.name] ++ [])) :=
        ⟨⟨name, args', span⟩, .mk name span all, by simp [Call.calls]⟩
      have stays : here.phase.executes = false := by rw [dry]; rfl
      simp only [stays]
      exact .pure ⟨written, function, declared, rfl⟩

lemma binary_succ (left : Expr) (op : BinOp) (right : Expr) (span : Span) :
    Settles (Misfits functions (Expr.binary left op right span).Makes)
      (sizeOf (Expr.binary left op right span) ≤ fuel + 2)
      (fun lines value => WritesExpr here.depth (.binary left op right span) lines value.text)
      (Eval.form functions (fuel + 1) here (.binary left op right span)) := by
  have size := span.one_le_sizeOf
  have fitsLeft : sizeOf (Expr.binary left op right span) ≤ fuel + 2 → sizeOf left ≤ fuel := by
    intro enough
    simp only [Expr.binary.sizeOf_spec] at enough
    omega
  have fitsRight : sizeOf (Expr.binary left op right span) ≤ fuel + 2 →
      sizeOf right ≤ fuel := by
    intro enough
    simp only [Expr.binary.sizeOf_spec] at enough
    omega
  -- what is written if both operands are looked at
  have both : ∀ {lhs rhs : Value} {left' right' : Expr}, Trims left left' →
      lhs.text = left'.text → Trims right right' → rhs.text = right'.text →
      WritesExpr here.depth (.binary left op right span)
        (markers here.depth left'.calls ++ (markers here.depth right'.calls ++ []))
        (Text.binaryForm lhs.text op.text rhs.text) := by
    intro lhs rhs left' right' trims text trims' text'
    refine ⟨_, .binary op span trims trims', by simp [Expr.calls], ?_⟩
    rw [text, text', Expr.text]
  cases op with
  | logical op =>
    rw [Eval.form]
    refine ih.after_expr dry (.left _ right span) fitsLeft fun lhs left' trims text => ?_
    refine .after_test (fun _ => Value.expectBool_error) fun l _ => ?_
    split
    · -- the left operand decides, and the right one is not looked at
      exact .pure ⟨left', .decided op right span trims, by simp, text⟩
    · refine ih.after_expr dry (.right left _ span) fitsRight fun rhs right' trims' text' => ?_
      refine .after_test (fun _ => Value.expectBool_error) fun r _ => ?_
      exact .pure (both trims text trims' text')
  | arithmetic op =>
    rw [Eval.form]
    refine ih.after_expr dry (.left _ right span) fitsLeft fun lhs left' trims text => ?_
    refine ih.after_expr dry (.right left _ span) fitsRight fun rhs right' trims' text' => ?_
    refine .orStandIn dry (fun fault h => Value.arithmetic_error h)
      (both trims text trims' text') fun value done => ?_
    rw [Value.text_arithmetic done]
    exact both trims text trims' text'
  | relational op =>
    rw [Eval.form]
    refine ih.after_expr dry (.left _ right span) fitsLeft fun lhs left' trims text => ?_
    refine ih.after_expr dry (.right left _ span) fitsRight fun rhs right' trims' text' => ?_
    refine .ofExcept (fun _ => Value.relational_error) fun value done => ?_
    rw [Value.text_relational done]
    exact both trims text trims' text'
  | bitwise op =>
    rw [Eval.form]
    refine ih.after_expr dry (.left _ right span) fitsLeft fun lhs left' trims text => ?_
    refine ih.after_expr dry (.right left _ span) fitsRight fun rhs right' trims' text' => ?_
    refine .ofExcept (fun _ => Value.bitwise_error) fun value done => ?_
    rw [Value.text_bitwise done]
    exact both trims text trims' text'

lemma form_succ (e : Expr) :
    Settles (Misfits functions e.Makes) (sizeOf e ≤ fuel + 2)
      (fun lines value => WritesExpr here.depth e lines value.text)
      (Eval.form functions (fuel + 1) here e) := by
  cases e with
  | integer n span => exact .pure ⟨_, .same _, rfl, rfl⟩
  | boolean b span => exact .pure ⟨_, .same _, rfl, rfl⟩
  | string s span => exact .pure ⟨_, .same _, rfl, rfl⟩
  | color c span => exact .pure ⟨_, .same _, rfl, rfl⟩
  | var name span =>
    rw [Eval.form]
    refine .after_lookup fun found faults => .after_standIn dry faults fun value => ?_
    exact .pure ⟨_, .same _, rfl, rfl⟩
  | element array index span =>
    have size := span.one_le_sizeOf
    rw [Eval.form]
    refine ih.after_expr dry (.element array span) (fun enough => ?_) ?_
    · simp only [Expr.element.sizeOf_spec] at enough
      omega
    intro value index' trims text
    refine .after_test (fun _ => Value.expectInt_error) fun i _ => ?_
    refine .after_lookup fun found faults => .after_standIn dry faults fun items => ?_
    refine .after_standIn dry (fun fault h => Value.element_error h) fun element => .pure ?_
    exact ⟨_, .element array span trims, by simp [Expr.calls], by simp [Expr.text, text]⟩
  | call site span =>
    have size := span.one_le_sizeOf
    rw [Eval.form]
    refine .bind ((ih.call dry site).within (Misfits.imp (.call span)) fun enough => ?_) ?_
    · simp only [Expr.call.sizeOf_spec] at enough
      omega
    rintro value _ ⟨⟨site', trims, rfl⟩, function, declared, rfl⟩
    have written : WritesExpr here.depth (.call site span)
        (markers here.depth site'.calls ++ [])
        (callStandIn function (Text.callForm site.name.name)).text := by
      refine ⟨_, .call span trims, by simp [Expr.calls], ?_⟩
      cases trims with
      | mk name span' all => rfl
    split
    · next isVoid =>
      have returns : function.returns = some .void := returns_of_isVoid_callStandIn isVoid
      refine .bind (P := fun _ _ => False) (.throw (Or.inr ?_)) ?_
      · exact ⟨site, true, .result site span, .void declared returns rfl⟩
      · rintro _ _ ⟨⟩
    · exact .pure written
  | sense sensor span =>
    have size := span.one_le_sizeOf
    rw [Eval.form]
    refine (ih.sense dry sensor).mono (Misfits.imp (.sense span)) (fun enough => ?_) ?_
    · simp only [Expr.sense.sizeOf_spec] at enough
      omega
    · rintro _ value ⟨sensor', trims, rfl, text⟩
      exact ⟨_, .sense span trims, by simp [Expr.calls], by rw [text, Expr.text]⟩
  | binary left op right span => exact ih.binary_succ dry left op right span
  | unary op operand span =>
    have size := span.one_le_sizeOf
    rw [Eval.form]
    refine ih.after_expr dry (.operand op span) (fun enough => ?_) ?_
    · simp only [Expr.unary.sizeOf_spec] at enough
      omega
    intro value operand' trims text
    refine .ofExcept (fun _ => Value.unary_error) fun result h => ?_
    refine ⟨_, .unary op span trims, by simp [Expr.calls], ?_⟩
    rw [Value.text_unary h, text, Expr.text]
  | paren inner span =>
    have size := span.one_le_sizeOf
    rw [Eval.form]
    refine ih.after_expr dry (.paren span) (fun enough => ?_) ?_
    · simp only [Expr.paren.sizeOf_spec] at enough
      omega
    intro value inner' trims text
    exact .pure ⟨_, .paren span trims, by simp [Expr.calls], by simp [Expr.text, text]⟩

/-! ## Statements -/

lemma stmts_succ (statements : List Stmt) :
    Settles (Misfits functions (MakesIn statements)) (sizeOf statements ≤ fuel + 1)
      (fun lines _ => WritesStmts here.depth statements lines)
      (Eval.stmts functions (fuel + 1) here statements) := by
  cases statements with
  | nil => exact .pure ⟨[], .nil, rfl⟩
  | cons s rest =>
    rw [stmts_cons_of_dry functions dry]
    refine .bind ((ih.stmt dry s).within (Misfits.imp .head) fun enough => ?_) ?_
    · simp only [List.cons.sizeOf_spec] at enough
      omega
    rintro flow _ ⟨s', trims, rfl⟩
    refine (ih.stmts dry rest).mono (Misfits.imp .tail) (fun enough => ?_) ?_
    · simp only [List.cons.sizeOf_spec] at enough
      omega
    · rintro _ flow ⟨rest', all, rfl⟩
      exact ⟨s' :: rest', .cons trims all, rfl⟩

lemma block (block : Block) :
    Settles (Misfits functions (MakesIn block.stmts)) (sizeOf block ≤ fuel + 1)
      (fun lines _ => WritesBlock here.depth block lines) (do
        let _ ← Eval.stmts functions fuel here.deeper block.stmts
        return (none : Flow)) := by
  obtain ⟨stmts, span⟩ := block
  have inside : here.deeper.phase = .dry := dry
  refine .bind ((ih.stmts inside stmts).le fun enough => ?_) ?_
  · simp only [Block.mk.sizeOf_spec] at enough
    omega
  · rintro flow _ ⟨stmts', all, rfl⟩
    exact .pure ⟨⟨stmts', span⟩, .mk span all, by simp [Block.lines]⟩

lemma branch_succ (block : Block) (taken : Bool) :
    Settles (Misfits functions (MakesIn block.stmts)) (sizeOf block ≤ fuel + 1)
      (fun lines _ => WritesBlock here.depth block lines)
      (Eval.branch functions (fuel + 1) here block taken) := by
  rw [branch_of_dry functions dry]
  exact ih.block dry block

lemma firstRound_succ (condition : Expr) (body : Block) (entered : Bool) :
    Settles (Misfits functions (MakesIn body.stmts)) (sizeOf body ≤ fuel + 1)
      (fun lines _ => WritesBlock here.depth body lines)
      (Eval.firstRound functions (fuel + 1) here condition body entered) := by
  rw [firstRound_of_dry functions dry]
  exact ih.block dry body

/-- A call is made in an optional second branch. -/
def MakesInElse (elseBlock : Option Block) (site : Call) (used : Bool) : Prop :=
  ∃ block ∈ elseBlock, MakesIn block.stmts site used

lemma secondBranch_of (elseBlock : Option Block) (taken : Bool) (first : Flow) :
    Settles (Misfits functions (MakesInElse elseBlock)) (sizeOf elseBlock ≤ fuel)
      (fun lines _ => WritesElse here.depth elseBlock lines)
      (secondBranch functions fuel here elseBlock taken first) := by
  cases elseBlock with
  | none => exact .pure ⟨none, .none, rfl⟩
  | some block =>
    have inside : ∀ {site used}, MakesIn block.stmts site used →
        MakesInElse (some block) site used := fun made => ⟨block, rfl, made⟩
    refine .after_emit dry _ ?_
    refine .bind ((ih.branch dry block _).within (Misfits.imp inside) fun enough => ?_) ?_
    · simp only [Option.some.sizeOf_spec] at enough
      omega
    · rintro flow _ ⟨block', trims, rfl⟩
      exact .pure ⟨some block', .some trims, by simp [elseLines]⟩

lemma assign_succ (target : Target) (value : Expr) (span : Span) :
    Settles (Misfits functions (Stmt.assign target value span).Makes)
      (sizeOf (Stmt.assign target value span) ≤ fuel + 1)
      (fun lines _ => WritesStmt here.depth (.assign target value span) lines)
      (Eval.stmt functions (fuel + 1) here (.assign target value span)) := by
  cases target with
  | var target =>
    rw [Eval.stmt]
    refine .after_enterSpan (ih.after_expr dry (.value (.var target) span) (fun enough => ?_) ?_)
    · simp only [Stmt.assign.sizeOf_spec] at enough
      omega
    intro _ value' trims text
    refine .after_emit dry _ (.after_define (.pure ?_))
    refine ⟨_, .assign span (.var target) trims, ?_⟩
    simp [Stmt.lines, instructionLines, text]
  | element array index =>
    rw [Eval.stmt]
    refine .after_enterSpan ?_
    refine ih.after_expr dry (.value (.element array index) span) (fun enough => ?_) ?_
    · simp only [Stmt.assign.sizeOf_spec] at enough
      omega
    intro _ value' trims text
    refine ih.after_expr dry (.index array value span) (fun enough => ?_) ?_
    · simp only [Stmt.assign.sizeOf_spec, Target.element.sizeOf_spec] at enough
      omega
    intro place index' trims' text'
    refine .after_test (fun _ => Value.expectInt_error) fun i _ => ?_
    refine .after_emit dry _ (.after_storeElement fun stored faults => ?_)
    refine .after_standIn dry faults fun _ => .pure ?_
    refine ⟨_, .assign span (.element array trims') trims, ?_⟩
    simp [Stmt.lines, instructionLines, text, text']

lemma ifThen_succ (condition : Expr) (thenBlock : Block) (elseBlock : Option Block)
    (span : Span) :
    Settles (Misfits functions (Stmt.ifThen condition thenBlock elseBlock span).Makes)
      (sizeOf (Stmt.ifThen condition thenBlock elseBlock span) ≤ fuel + 1)
      (fun lines _ => WritesStmt here.depth (.ifThen condition thenBlock elseBlock span) lines)
      (Eval.stmt functions (fuel + 1) here (.ifThen condition thenBlock elseBlock span)) := by
  rw [Eval.stmt_ifThen]
  refine .after_enterSpan ?_
  refine ih.after_expr dry (.condition thenBlock elseBlock span) (fun enough => ?_) ?_
  · simp only [Stmt.ifThen.sizeOf_spec] at enough
    omega
  intro value test' trims text
  refine .after_test (fun _ => Value.expectBool_error) fun taken _ => ?_
  have inThen : ∀ {site used}, MakesIn thenBlock.stmts site used →
      (Stmt.ifThen condition thenBlock elseBlock span).Makes site used := by
    rintro site used ⟨_, mem, made⟩
    exact .thenBlock condition elseBlock span mem made
  have inElse : ∀ {site used}, MakesInElse elseBlock site used →
      (Stmt.ifThen condition thenBlock elseBlock span).Makes site used := by
    rintro site used ⟨block, rfl, _, mem, made⟩
    exact .elseBlock condition thenBlock span mem made
  refine .after_emit dry _ ?_
  refine .bind ((ih.branch dry thenBlock taken).within (Misfits.imp inThen) fun enough => ?_) ?_
  · simp only [Stmt.ifThen.sizeOf_spec] at enough
    omega
  rintro first _ ⟨thenBlock', inner, rfl⟩
  have second := ih.secondBranch_of dry elseBlock taken first
  refine .bind (second.within (Misfits.imp inElse) fun enough => ?_) ?_
  · simp only [Stmt.ifThen.sizeOf_spec] at enough
    omega
  rintro flow _ ⟨elseBlock', inner', rfl⟩
  refine .after_emit dry _ (.pure ⟨_, .ifThen span trims inner inner', ?_⟩)
  simp [Stmt.lines, instructionLines, text]

lemma whileDo_succ (condition : Expr) (body : Block) (span : Span) :
    Settles (Misfits functions (Stmt.whileDo condition body span).Makes)
      (sizeOf (Stmt.whileDo condition body span) ≤ fuel + 1)
      (fun lines _ => WritesStmt here.depth (.whileDo condition body span) lines)
      (Eval.stmt functions (fuel + 1) here (.whileDo condition body span)) := by
  rw [Eval.stmt]
  refine .after_enterSpan (ih.after_expr dry (.test body span) (fun enough => ?_) ?_)
  · simp only [Stmt.whileDo.sizeOf_spec] at enough
    omega
  intro value test' trims text
  refine .after_test (fun _ => Value.expectBool_error) fun entered _ => ?_
  refine .after_emit dry _ ?_
  have inside : ∀ {site used}, MakesIn body.stmts site used →
      (Stmt.whileDo condition body span).Makes site used := by
    rintro site used ⟨_, mem, made⟩
    exact .body condition span mem made
  have round := ih.firstRound dry condition body entered
  refine .bind (round.within (Misfits.imp inside) fun enough => ?_) ?_
  · simp only [Stmt.whileDo.sizeOf_spec] at enough
    omega
  rintro flow _ ⟨body', inner, rfl⟩
  refine .after_emit dry _ (.pure ⟨_, .whileDo span trims inner, ?_⟩)
  simp [Stmt.lines, instructionLines, text]

lemma stmt_succ (s : Stmt) :
    Settles (Misfits functions s.Makes) (sizeOf s ≤ fuel + 1)
      (fun lines _ => WritesStmt here.depth s lines)
      (Eval.stmt functions (fuel + 1) here s) := by
  cases s with
  | assign target value span => exact ih.assign_succ dry target value span
  | ifThen condition thenBlock elseBlock span =>
    exact ih.ifThen_succ dry condition thenBlock elseBlock span
  | whileDo condition body span => exact ih.whileDo_succ dry condition body span
  | giveBack value span =>
    cases value with
    | none =>
      rw [Eval.stmt]
      exact .after_enterSpan (.after_emit dry _ (.pure ⟨_, .same _, rfl⟩))
    | some value =>
      rw [Eval.stmt]
      refine .after_enterSpan (ih.after_expr dry (.giveBack span) (fun enough => ?_) ?_)
      · simp only [Stmt.giveBack.sizeOf_spec, Option.some.sizeOf_spec] at enough
        omega
      intro _ value' trims text
      refine .after_emit dry _ (.pure ⟨_, .giveBack span trims, ?_⟩)
      simp [Stmt.lines, instructionLines, text]
  | read target span =>
    have stays : here.phase.executes = false := by rw [dry]; rfl
    rw [Eval.stmt]
    simp only [stays]
    exact .after_enterSpan (.after_define (.pure ⟨_, .same _, rfl⟩))
  | write value span =>
    rw [Eval.stmt, dry]
    refine .after_enterSpan (ih.after_expr dry (.write span) (fun enough => ?_) ?_)
    · simp only [Stmt.write.sizeOf_spec] at enough
      omega
    intro _ value' trims text
    refine .after_emit dry _ (.pure ⟨_, .write span trims, ?_⟩)
    simp [Stmt.lines, instructionLines, text, printed]
  | actuate actuator args span =>
    rw [Eval.stmt]
    have among : ∀ {site used}, MakesAmong args site used →
        (Stmt.actuate actuator args span).Makes site used := by
      rintro site used ⟨_, mem, made⟩
      exact .actuate actuator span mem made
    refine .after_enterSpan ?_
    refine .bind ((ih.numbers dry args).within (Misfits.imp among) fun enough => ?_) ?_
    · simp only [Stmt.actuate.sizeOf_spec] at enough
      omega
    rintro texts _ ⟨args', all, rfl, rfl⟩
    refine .after_emit dry _ (.pure ⟨_, .actuate actuator span all, ?_⟩)
    simp [Stmt.lines, instructionLines]
  | paint color span =>
    rw [Eval.stmt]
    refine .after_enterSpan (ih.after_expr dry (.paint span) (fun enough => ?_) ?_)
    · simp only [Stmt.paint.sizeOf_spec] at enough
      omega
    intro value color' trims text
    refine .after_test (fun _ => Value.expectColor_error) fun _ _ => ?_
    refine .after_emit dry _ (.pure ⟨_, .paint span trims, ?_⟩)
    simp [Stmt.lines, instructionLines, text]
  | pen down span =>
    rw [Eval.stmt]
    exact .after_enterSpan (.after_emit dry _ (.pure ⟨_, .same _, rfl⟩))
  | sense sensor span =>
    rw [Eval.stmt]
    refine .after_enterSpan ?_
    refine .bind ((ih.sense dry sensor).within (Misfits.imp (.sense span)) fun enough => ?_) ?_
    · simp only [Stmt.sense.sizeOf_spec] at enough
      omega
    rintro reading _ ⟨sensor', trims, rfl, text⟩
    refine .after_emit dry _ (.pure ⟨_, .sense span trims, ?_⟩)
    simp [Stmt.lines, instructionLines, text]
  | call site =>
    rw [Eval.stmt]
    refine .after_enterSpan ?_
    refine .bind ((ih.call dry site).within (Misfits.imp .call) fun enough => ?_) ?_
    · simp only [Stmt.call.sizeOf_spec] at enough
      omega
    rintro value _ ⟨⟨site', trims, rfl⟩, -⟩
    exact .pure ⟨_, .call trims, by simp [Stmt.lines]⟩

end Settled

/-- **Dry code settles.**  It comes to an end with as much fuel as its syntax is large.  Only a
call in it that does not fit, or a value of a wrong kind, can stop it, and otherwise it writes the
lines of its syntax. -/
theorem settled (fuel : Nat) : Settled functions fuel := by
  induction fuel with
  | zero =>
    exact {
      expr := fun _ e => .outOfFuel (by have := e.two_le_sizeOf; omega)
      form := fun _ e => .outOfFuel (by have := e.two_le_sizeOf; omega)
      sense := fun _ sensor => .outOfFuel (by have := sensor.one_le_sizeOf; omega)
      call := fun _ site => .outOfFuel (by have := site.one_le_sizeOf; omega)
      arguments := fun _ _ _ _ _ args _ _ => .outOfFuel
        (by have := one_le_sizeOf_list args; omega)
      argument := fun _ _ _ _ _ _ _ => .outOfFuel (by omega)
      numbers := fun _ args => .outOfFuel (by have := one_le_sizeOf_list args; omega)
      stmts := fun _ list => .outOfFuel (by have := one_le_sizeOf_list list; omega)
      stmt := fun _ s => .outOfFuel (by have := s.one_le_sizeOf; omega)
      branch := fun _ block _ => .outOfFuel (by have := block.one_le_sizeOf; omega)
      firstRound := fun _ _ body _ => .outOfFuel (by have := body.one_le_sizeOf; omega) }
  | succ fuel ih =>
    exact {
      expr := ih.expr_succ
      form := ih.form_succ
      sense := ih.sense_succ
      call := ih.call_succ
      arguments := ih.arguments_succ
      argument := ih.argument_succ
      numbers := ih.numbers_succ
      stmts := ih.stmts_succ
      stmt := ih.stmt_succ
      branch := ih.branch_succ
      firstRound := ih.firstRound_succ }

/-- Code that is written out settles, too. -/
lemma settles_writeOut (fuel : Nat) (here : Cursor) (statements : List Stmt) :
    Settles (Misfits functions (MakesIn statements)) (sizeOf statements + 1 ≤ fuel)
      (fun lines _ => WritesStmts here.depth statements lines)
      (writeOut functions fuel here statements) := by
  cases fuel with
  | zero => exact .outOfFuel (by omega)
  | succ fuel =>
    have dry : (here.inPhase .dry).phase = .dry := rfl
    have inside := (settled functions fuel).stmts dry statements
    rw [writeOut]
    refine .takingBack (.bind (inside.le fun enough => ?_) ?_)
    · omega
    · intro flow lines written
      exact .pure (by simpa using written)

end RobotScribe
