/-
# The points of a run

A run evaluates the body of the main function, and to do so it evaluates statements, and to do so
expressions, calls and the bodies of other functions.  Each of these evaluations starts at a point
of the run: a task, a machine, and the fuel that is left.  This file says to which points an
evaluation comes (`Into`), one constructor for each place in the evaluator where a part of it is
started, and hence which points a run has (`Session.Passes`).

A point is come to only if everything before it has succeeded.  A run that fails, or runs out of
fuel, has the points that it has come to.  No part of the evaluator is left out: an evaluation runs
out of fuel exactly if it comes to a point that has none (`Point.exhausted_iff`).
-/
import RobotScribe.Proofs.TracedSessions
import Mathlib.Logic.Relation

namespace RobotScribe

open Eval

/-- What a part of the evaluator is given, except for the fuel. -/
inductive Task where
  | expr (here : Cursor) (e : Expr)
  | form (here : Cursor) (e : Expr)
  | sense (here : Cursor) (sensor : Sensor)
  | call (here : Cursor) (site : Call)
  | arguments (here : Cursor) (function : Function) (params : List Param) (args : List Expr)
  | argument (here : Cursor) (function : Function) (param : Param) (arg : Expr)
  | runFunction (body : Cursor) (function : Function) (slots : List Slot)
  | stmts (here : Cursor) (statements : List Stmt)
  | stmt (here : Cursor) (s : Stmt)
  | branch (here : Cursor) (block : Block) (taken : Bool)
  | firstRound (here : Cursor) (condition : Expr) (body : Block) (entered : Bool)
  | rounds (here : Cursor) (condition : Expr) (body : Block)
  | numbers (here : Cursor) (args : List Expr)
  | writeOut (here : Cursor) (statements : List Stmt)

namespace Task

/-- What the evaluation of a task results in. -/
abbrev Result : Task → Type
  | expr .. | form .. | sense .. | call .. | runFunction .. => Value
  | arguments .. => List Slot
  | argument .. => Slot
  | stmts .. | stmt .. | branch .. | firstRound .. | rounds .. => Flow
  | numbers .. => List String
  | writeOut .. => Unit

/-- Evaluates a task. -/
def evaluate (functions : String → Option Function) (fuel : Nat) : (task : Task) → Eval task.Result
  | expr here e => Eval.expr functions fuel here e
  | form here e => Eval.form functions fuel here e
  | sense here sensor => Eval.sense functions fuel here sensor
  | call here site => Eval.call functions fuel here site
  | arguments here function params args => Eval.arguments functions fuel here function params args
  | argument here function param arg => Eval.argument functions fuel here function param arg
  | runFunction body function slots => Eval.runFunction functions fuel body function slots
  | stmts here statements => Eval.stmts functions fuel here statements
  | stmt here s => Eval.stmt functions fuel here s
  | branch here block taken => Eval.branch functions fuel here block taken
  | firstRound here condition body entered =>
    Eval.firstRound functions fuel here condition body entered
  | rounds here condition body => Eval.rounds functions fuel here condition body
  | numbers here args => Eval.numbers functions fuel here args
  | writeOut here statements => Eval.writeOut functions fuel here statements

end Task

/-! ## What comes before a part -/

namespace Eval

section

variable (functions : String → Option Function) (fuel : Nat) (here : Cursor)

/-- Tests the condition of a statement, and writes it after a word. -/
def test (span : Span) (word : String) (condition : Expr) : Eval Bool := do
  enterSpan span
  let value ← expr functions fuel here condition
  let holds ← ofExcept value.expectBool
  emit here (word ++ value.text)
  return holds

/-- Gathers the arguments of a call, and writes the call. -/
def gather (function : Function) (site : Call) : Eval (List Slot) := do
  let slots ← arguments functions fuel here function function.params site.args
  mark here (Text.callForm site.name.name)
  return slots

end

variable {functions : String → Option Function} {fuel : Nat} {here : Cursor}

lemma call_eq_gather {site : Call} {function : Function}
    (declared : functions site.name.name = some function)
    (fits : site.args.length = function.params.length) :
    call functions (fuel + 1) here site = (do
      let slots ← gather functions fuel here function site
      if here.phase.executes then
        let result ← runFunction functions fuel here.calledBody function slots
        return result.withText (Text.callForm site.name.name)
      else return callStandIn function (Text.callForm site.name.name)) := by
  rw [call_of_declared functions declared, if_neg (not_not_intro fits)]
  simp [gather]

lemma stmt_ifThen_eq_test (condition : Expr) (thenBlock : Block) (elseBlock : Option Block)
    (span : Span) :
    stmt functions (fuel + 1) here (.ifThen condition thenBlock elseBlock span) = (do
      let taken ← test functions fuel here span "if " condition
      let first ← branch functions fuel here thenBlock taken
      let flow ← secondBranch functions fuel here elseBlock taken first
      emit here "endif"
      return flow) := by
  rw [stmt_ifThen]
  simp [test]

lemma stmt_whileDo_eq_test (condition : Expr) (body : Block) (span : Span) :
    stmt functions (fuel + 1) here (.whileDo condition body span) = (do
      let entered ← test functions fuel here span "while " condition
      let flow ← firstRound functions fuel here condition body entered
      emit here "wend"
      return flow) := by
  rw [stmt]
  simp [test, Stmt.span]

end Eval

/-! ## Points -/

/-- A task that is to be evaluated from a machine, with so much fuel. -/
structure Point where
  fuel : Nat
  task : Task
  machine : Machine

/-- Evaluating one point comes to evaluating another one as a part of it. -/
inductive Into (functions : String → Option Function) : Point → Point → Prop where
  /- expressions -/
  | form {fuel here e m n} (enters : enterSpan e.span m = some (.ok (), n)) :
    Into functions ⟨fuel + 1, .expr here e, m⟩ ⟨fuel, .form here e, n⟩
  | index {fuel here array index span m} :
    Into functions ⟨fuel + 1, .form here (.element array index span), m⟩ ⟨fuel, .expr here index, m⟩
  | call {fuel here site span m} :
    Into functions ⟨fuel + 1, .form here (.call site span), m⟩ ⟨fuel, .call here site, m⟩
  | sense {fuel here sensor span m} :
    Into functions ⟨fuel + 1, .form here (.sense sensor span), m⟩ ⟨fuel, .sense here sensor, m⟩
  | left {fuel here left op right span m} :
    Into functions ⟨fuel + 1, .form here (.binary left op right span), m⟩ ⟨fuel, .expr here left, m⟩
  | right {fuel here left op right span lhs m n}
    (done : expr functions fuel here left m = some (.ok lhs, n))
    (undecided : ∀ connective, op = .logical connective →
      ∃ l, lhs.expectBool = .ok l ∧ connective.decidedBy l = false) :
    Into functions ⟨fuel + 1, .form here (.binary left op right span), m⟩
      ⟨fuel, .expr here right, n⟩
  | operand {fuel here op operand span m} :
    Into functions ⟨fuel + 1, .form here (.unary op operand span), m⟩ ⟨fuel, .expr here operand, m⟩
  | inner {fuel here inner span m} :
    Into functions ⟨fuel + 1, .form here (.paren inner span), m⟩ ⟨fuel, .expr here inner, m⟩
  | direction {fuel here direction m} :
    Into functions ⟨fuel + 1, .sense here (.look direction), m⟩ ⟨fuel, .expr here direction, m⟩
  /- calls -/
  | arguments {fuel here site function m} (declared : functions site.name.name = some function)
    (fits : site.args.length = function.params.length) :
    Into functions ⟨fuel + 1, .call here site, m⟩
      ⟨fuel, .arguments here function function.params site.args, m⟩
  | runFunction {fuel here site function slots m n}
    (declared : functions site.name.name = some function)
    (fits : site.args.length = function.params.length) (runs : here.phase.executes = true)
    (gathered : gather functions fuel here function site m = some (.ok slots, n)) :
    Into functions ⟨fuel + 1, .call here site, m⟩
      ⟨fuel, .runFunction here.calledBody function slots, n⟩
  | argument {fuel here function param params arg args m} :
    Into functions ⟨fuel + 1, .arguments here function (param :: params) (arg :: args), m⟩
      ⟨fuel, .argument here function param arg, m⟩
  | nextArguments {fuel here function param params arg args slot m n}
    (done : argument functions fuel here function param arg m = some (.ok slot, n)) :
    Into functions ⟨fuel + 1, .arguments here function (param :: params) (arg :: args), m⟩
      ⟨fuel, .arguments here function params args, n⟩
  | byValue {fuel here function param arg m} (copied : param.isReference = false) :
    Into functions ⟨fuel + 1, .argument here function param arg, m⟩ ⟨fuel, .expr here arg, m⟩
  | body {fuel body function slots m n}
    (entered : enter function slots m.line m = some (.ok (), n)) :
    Into functions ⟨fuel + 1, .runFunction body function slots, m⟩
      ⟨fuel, .stmts body.deeper function.body.stmts, n⟩
  /- sequences of statements -/
  | stmt {fuel here s rest m} :
    Into functions ⟨fuel + 1, .stmts here (s :: rest), m⟩ ⟨fuel, .stmt here s, m⟩
  | nextStmts {fuel here s rest flow m n}
    (done : stmt functions fuel here s m = some (.ok flow, n))
    (stays : flow = none ∨ here.phase = .dry) :
    Into functions ⟨fuel + 1, .stmts here (s :: rest), m⟩ ⟨fuel, .stmts here rest, n⟩
  | restOut {fuel here s rest value m n}
    (done : stmt functions fuel here s m = some (.ok (some value), n))
    (live : here.phase = .live) :
    Into functions ⟨fuel + 1, .stmts here (s :: rest), m⟩ ⟨fuel, .writeOut here rest, n⟩
  /- statements -/
  | assigned {fuel here target value span m n} (enters : enterSpan span m = some (.ok (), n)) :
    Into functions ⟨fuel + 1, .stmt here (.assign target value span), m⟩ ⟨fuel, .expr here value, n⟩
  | position {fuel here array index value span v m n}
    (done : (do
      enterSpan span
      expr functions fuel here value) m = some (.ok v, n)) :
    Into functions ⟨fuel + 1, .stmt here (.assign (.element array index) value span), m⟩
      ⟨fuel, .expr here index, n⟩
  | condition {fuel here condition thenBlock elseBlock span m n}
    (enters : enterSpan span m = some (.ok (), n)) :
    Into functions ⟨fuel + 1, .stmt here (.ifThen condition thenBlock elseBlock span), m⟩
      ⟨fuel, .expr here condition, n⟩
  | thenBranch {fuel here condition thenBlock elseBlock span taken m n}
    (tested : test functions fuel here span "if " condition m = some (.ok taken, n)) :
    Into functions ⟨fuel + 1, .stmt here (.ifThen condition thenBlock elseBlock span), m⟩
      ⟨fuel, .branch here thenBlock taken, n⟩
  | elseBranch {fuel here condition thenBlock elseBlock span taken m n}
    (done : (do
      let taken ← test functions fuel here span "if " condition
      let _ ← branch functions fuel here thenBlock taken
      emit here "else"
      return taken) m = some (.ok taken, n)) :
    Into functions ⟨fuel + 1, .stmt here (.ifThen condition thenBlock (some elseBlock) span), m⟩
      ⟨fuel, .branch here elseBlock (!taken), n⟩
  | loopCondition {fuel here condition body span m n}
    (enters : enterSpan span m = some (.ok (), n)) :
    Into functions ⟨fuel + 1, .stmt here (.whileDo condition body span), m⟩
      ⟨fuel, .expr here condition, n⟩
  | firstRound {fuel here condition body span entered m n}
    (tested : test functions fuel here span "while " condition m = some (.ok entered, n)) :
    Into functions ⟨fuel + 1, .stmt here (.whileDo condition body span), m⟩
      ⟨fuel, .firstRound here condition body entered, n⟩
  | given {fuel here value span m n} (enters : enterSpan span m = some (.ok (), n)) :
    Into functions ⟨fuel + 1, .stmt here (.giveBack (some value) span), m⟩
      ⟨fuel, .expr here value, n⟩
  | printed {fuel here value span m n} (enters : enterSpan span m = some (.ok (), n)) :
    Into functions ⟨fuel + 1, .stmt here (.write value span), m⟩ ⟨fuel, .expr here value, n⟩
  | numbers {fuel here actuator args span m n} (enters : enterSpan span m = some (.ok (), n)) :
    Into functions ⟨fuel + 1, .stmt here (.actuate actuator args span), m⟩
      ⟨fuel, .numbers here args, n⟩
  | painted {fuel here color span m n} (enters : enterSpan span m = some (.ok (), n)) :
    Into functions ⟨fuel + 1, .stmt here (.paint color span), m⟩ ⟨fuel, .expr here color, n⟩
  | reading {fuel here sensor span m n} (enters : enterSpan span m = some (.ok (), n)) :
    Into functions ⟨fuel + 1, .stmt here (.sense sensor span), m⟩ ⟨fuel, .sense here sensor, n⟩
  | performed {fuel here site m n} (enters : enterSpan site.span m = some (.ok (), n)) :
    Into functions ⟨fuel + 1, .stmt here (.call site), m⟩ ⟨fuel, .call here site, n⟩
  | number {fuel here arg args m} :
    Into functions ⟨fuel + 1, .numbers here (arg :: args), m⟩ ⟨fuel, .expr here arg, m⟩
  | nextNumbers {fuel here arg args number m n}
    (done : (do
      let value ← expr functions fuel here arg
      Eval.ofExcept value.expectInt) m = some (.ok number, n)) :
    Into functions ⟨fuel + 1, .numbers here (arg :: args), m⟩ ⟨fuel, .numbers here args, n⟩
  /- branches and loops -/
  | branch {fuel here block taken m} (chosen : taken = true ∨ here.phase = .dry) :
    Into functions ⟨fuel + 1, .branch here block taken, m⟩ ⟨fuel, .stmts here.deeper block.stmts, m⟩
  | branchOut {fuel here block m} (live : here.phase = .live) :
    Into functions ⟨fuel + 1, .branch here block false, m⟩
      ⟨fuel, .writeOut here.deeper block.stmts, m⟩
  | rounds {fuel here condition body m} (runs : here.phase.executes = true) :
    Into functions ⟨fuel + 1, .firstRound here condition body true, m⟩
      ⟨fuel, .rounds here condition body, m⟩
  | dryRound {fuel here condition body entered m} (dry : here.phase = .dry) :
    Into functions ⟨fuel + 1, .firstRound here condition body entered, m⟩
      ⟨fuel, .stmts here.deeper body.stmts, m⟩
  | loopOut {fuel here condition body m} (live : here.phase = .live) :
    Into functions ⟨fuel + 1, .firstRound here condition body false, m⟩
      ⟨fuel, .writeOut here.deeper body.stmts, m⟩
  | round {fuel here condition body m} :
    Into functions ⟨fuel + 1, .rounds here condition body, m⟩
      ⟨fuel, .stmts here.deeper body.stmts, m⟩
  | retest {fuel here condition body m n}
    (done : stmts functions fuel here.deeper body.stmts m = some (.ok none, n)) :
    Into functions ⟨fuel + 1, .rounds here condition body, m⟩
      ⟨fuel, .expr (here.inPhase .silent) condition, n⟩
  | again {fuel here condition body l m n}
    (done : stmts functions fuel here.deeper body.stmts m = some (.ok none, l))
    (holds : (do
      let value ← expr functions fuel (here.inPhase .silent) condition
      Eval.ofExcept value.expectBool) l = some (.ok true, n)) :
    Into functions ⟨fuel + 1, .rounds here condition body, m⟩
      ⟨fuel, .rounds (here.inPhase .silent) condition body, n⟩
  /- code that is written out -/
  | dry {fuel here statements m} :
    Into functions ⟨fuel + 1, .writeOut here statements, m⟩
      ⟨fuel, .stmts (here.inPhase .dry) statements, m⟩

/-- Evaluating one point comes to evaluating another one, as a part of a part of it and so on. -/
abbrev ComesTo (functions : String → Option Function) : Point → Point → Prop :=
  Relation.ReflTransGen (Into functions)

/-- The evaluation of a point ends with an outcome, in a machine. -/
def Point.Ends (functions : String → Option Function) (p : Point)
    (outcome : Except Fault p.task.Result) (n : Machine) : Prop :=
  p.task.evaluate functions p.fuel p.machine = some (outcome, n)

/-- A run passes through a point: the evaluation of the main function comes to it. -/
def Session.Passes (s : Session) (fuel : Nat) (p : Point) : Prop :=
  ∃ main, s.declarations.find? Session.mainName = some main ∧
    ComesTo s.declarations.find? ⟨fuel, .runFunction (.top .live) main [], s.started⟩ p

lemma Session.Passes.into {s : Session} {fuel : Nat} {p q : Point} (passes : s.Passes fuel p)
    (into : Into s.declarations.find? p q) : s.Passes fuel q := by
  obtain ⟨main, declared, comes⟩ := passes
  exact ⟨main, declared, comes.tail into⟩

end RobotScribe
