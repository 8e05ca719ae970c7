/-
# The call sites of a block

The prepared block of a function calls the block of every function that is called in the body, at
each place where it is called, with one exception.  A connective that its left operand decides
has its right operand left alone, and then the calls in that are not written.  Dry code computes
with stand-ins, so a connective may be decided there although a run would come to its right operand.

Which connectives are decided depends on the values that the walk through the body computes.  That
walk is an evaluation like any other, so its points say what it comes to (`Decided`), and the call
sites can be accounted for: each one is written, or stands in the right operand of a connective that
is decided where the walk comes to it.
-/
import RobotScribe.Proofs.Blocks
import RobotScribe.Proofs.Points
import Mathlib.Data.List.Count

namespace RobotScribe

open Eval

/-! ## Connectives and calls -/

mutual

/-- The connectives of an expression with their operands, from left to right. -/
def Expr.connectives : Expr → List Expr
  | .element _ index _ => index.connectives
  | .call site _ => site.connectives
  | .sense sensor _ => sensor.connectives
  | .binary left (.logical op) right span =>
    left.connectives ++ .binary left (.logical op) right span :: right.connectives
  | .binary left _ right _ => left.connectives ++ right.connectives
  | .unary _ operand _ => operand.connectives
  | .paren inner _ => inner.connectives
  | .integer .. | .boolean .. | .string .. | .color .. | .var .. => []

/-- The connectives in the arguments of a call. -/
def Call.connectives : Call → List Expr
  | ⟨_, args, _⟩ => connectivesOf args

/-- The connectives in the direction of a sensor. -/
def Sensor.connectives : Sensor → List Expr
  | .look direction => direction.connectives
  | .feel | .infrared | .bumper | .compass | .beacon _ => []

/-- The connectives of some expressions, from left to right. -/
def connectivesOf : List Expr → List Expr
  | [] => []
  | e :: rest => e.connectives ++ connectivesOf rest

end

/-- The calls in the right operand of a connective. -/
def Expr.rightCalls : Expr → List String
  | .binary _ _ right _ => right.calls
  | _ => []

mutual

/-- The expressions of a statement and of the blocks in it, in the order in which they are
written.  A call and a sensor that are statements count as expressions. -/
def Stmt.expressions : Stmt → List Expr
  | .assign (.var _) value _ => [value]
  | .assign (.element _ index) value _ => [value, index]
  | .ifThen condition thenBlock elseBlock _ =>
    condition :: (thenBlock.expressions ++ elseExpressions elseBlock)
  | .whileDo condition body _ => condition :: body.expressions
  | .giveBack value _ => value.toList
  | .read .. | .pen .. => []
  | .write value _ => [value]
  | .actuate _ args _ => args
  | .paint color _ => [color]
  | .sense sensor span => [.sense sensor span]
  | .call site => [.call site site.span]

/-- The expressions of a block. -/
def Block.expressions : Block → List Expr
  | ⟨stmts, _⟩ => expressionsOf stmts

/-- The expressions of an optional second branch. -/
def elseExpressions : Option Block → List Expr
  | none => []
  | some block => block.expressions

/-- The expressions of some statements, in order. -/
def expressionsOf : List Stmt → List Expr
  | [] => []
  | s :: rest => s.expressions ++ expressionsOf rest

end

lemma Block.expressions_eq (block : Block) : block.expressions = expressionsOf block.stmts := by
  cases block
  rfl

@[simp] lemma callsOf_append : ∀ es es', callsOf (es ++ es') = callsOf es ++ callsOf es'
  | [], _ => rfl
  | e :: es, es' => by
    rw [List.cons_append, callsOf, callsOf, callsOf_append es, List.append_assoc]

@[simp] lemma connectivesOf_append :
    ∀ es es', connectivesOf (es ++ es') = connectivesOf es ++ connectivesOf es'
  | [], _ => rfl
  | e :: es, es' => by
    rw [List.cons_append, connectivesOf, connectivesOf, connectivesOf_append es, List.append_assoc]

@[simp] lemma callsOf_singleton (e : Expr) : callsOf [e] = e.calls := List.append_nil _

@[simp] lemma connectivesOf_singleton (e : Expr) : connectivesOf [e] = e.connectives :=
  List.append_nil _

/-! ## Accounts -/

/-- The calls of some expressions are those that have been made, and those in the right operands of
some of their connectives, all of which have a property. -/
def Accounts (P : Expr → Prop) (es : List Expr) (made : List String) : Prop :=
  ∃ spared : List Expr, spared.Sublist (connectivesOf es) ∧ (∀ e ∈ spared, P e) ∧
    (callsOf es).Perm (made ++ spared.flatMap Expr.rightCalls)

namespace Accounts

variable {P : Expr → Prop} {es es' : List Expr} {made made' : List String}

lemma append (h : Accounts P es made) (h' : Accounts P es' made') :
    Accounts P (es ++ es') (made ++ made') := by
  obtain ⟨spared, sub, all, perm⟩ := h
  obtain ⟨spared', sub', all', perm'⟩ := h'
  refine ⟨spared ++ spared', ?_, fun e mem => ?_, ?_⟩
  · rw [connectivesOf_append]
    exact sub.append sub'
  · rcases List.mem_append.mp mem with mem | mem
    · exact all e mem
    · exact all' e mem
  · rw [callsOf_append, List.flatMap_append]
    refine (perm.append perm').trans ?_
    -- what has been made goes before what has been spared
    rw [List.append_assoc, List.append_assoc]
    refine (List.Perm.append_left made ?_)
    rw [← List.append_assoc, ← List.append_assoc]
    exact List.perm_append_comm.append_right _

/-- An expression whose parts are accounted for, and which makes some calls of its own. -/
lemma whole {e : Expr} {own : List String} (calls : e.calls = callsOf es ++ own)
    (connectives : e.connectives = connectivesOf es) (h : Accounts P es made) :
    Accounts P [e] (made ++ own) := by
  obtain ⟨spared, sub, all, perm⟩ := h
  refine ⟨spared, ?_, all, ?_⟩
  · rw [connectivesOf_singleton, connectives]
    exact sub
  · rw [callsOf_singleton, calls]
    refine (perm.append_right own).trans ?_
    rw [List.append_assoc, List.append_assoc]
    exact List.perm_append_comm.append_left made

/-- A connective that its left operand decides. -/
lemma of_decided {left right : Expr} {op : Connective} {span : Span}
    (spares : P (.binary left (.logical op) right span))
    (h : Accounts P [left] made) :
    Accounts P [.binary left (.logical op) right span] made := by
  obtain ⟨spared, sub, all, perm⟩ := h
  rw [connectivesOf_singleton] at sub
  rw [callsOf_singleton] at perm
  refine ⟨spared ++ [.binary left (.logical op) right span], ?_, fun e mem => ?_, ?_⟩
  · rw [connectivesOf_singleton, Expr.connectives]
    exact sub.append (List.Sublist.cons_cons _ (List.nil_sublist _))
  · rcases List.mem_append.mp mem with mem | mem
    · exact all e mem
    · rw [List.mem_singleton.mp mem]
      exact spares
  · rw [callsOf_singleton, Expr.calls, List.flatMap_append, ← List.append_assoc]
    exact perm.append (by simp [Expr.rightCalls])

/-- A connective both of whose operands are evaluated. -/
lemma of_undecided {left right : Expr} {op : Connective} {span : Span}
    (h : Accounts P [left] made) (h' : Accounts P [right] made') :
    Accounts P [.binary left (.logical op) right span] (made ++ made') := by
  obtain ⟨spared, sub, all, perm⟩ := h.append h'
  refine ⟨spared, ?_, all, ?_⟩
  · refine sub.trans ?_
    rw [connectivesOf_append, connectivesOf_singleton, connectivesOf_singleton,
      connectivesOf_singleton, Expr.connectives]
    exact (List.sublist_cons_self _ _).append_left _
  · rw [callsOf_append, callsOf_singleton, callsOf_singleton] at perm
    rw [callsOf_singleton, Expr.calls]
    exact perm

end Accounts

/-! ## Lines that call blocks -/

lemma Text.callForm_injective : Function.Injective Text.callForm := by
  intro f g same
  have letters := congrArg String.toList same
  rw [← String.toList_inj]
  simpa [Text.callForm] using letters

/-- The texts of the lines that call blocks, in order. -/
def markerTexts (lines : List Entry) : List String := (lines.filter Entry.isMarker).map Entry.text

@[simp] lemma markerTexts_append (lines lines' : List Entry) :
    markerTexts (lines ++ lines') = markerTexts lines ++ markerTexts lines' := by
  rw [markerTexts, List.filter_append, List.map_append, markerTexts, markerTexts]

/-- Lines are added, and none of them calls a block. -/
def Unmarked (m n : Machine) : Prop :=
  ∃ added, n.written = m.written ++ added ∧ markerTexts added = []

lemma Unmarked.trans {l m n : Machine} (h : Unmarked l m) (h' : Unmarked m n) : Unmarked l n := by
  obtain ⟨added, written, none⟩ := h
  obtain ⟨added', written', none'⟩ := h'
  refine ⟨added ++ added', ?_, ?_⟩
  · rw [written', written, List.append_assoc]
  · rw [markerTexts_append, none, none', List.append_nil]

/-- The effect of code that calls no block. -/
def unmarking : Effect where
  done := Unmarked
  stopped := Unmarked
  done_refl m := ⟨[], by rw [List.append_nil], rfl⟩
  done_trans := .trans
  stopped_of_done h := h
  stopped_trans := .trans

namespace Unmarking

variable {α : Type} {x : Eval α}

lemma of_quiet (quiet : Quiet x) : unmarking.Allows x := by
  refine .of_done fun m outcome n ran => ⟨[], ?_, rfl⟩
  rw [Machine.written, (quiet ran).1, Machine.written, List.append_nil]

lemma enterSpan (span : Span) : unmarking.Allows (enterSpan span) := by
  unfold Eval.enterSpan
  split
  · exact of_quiet (.setLine _)
  · exact .pure ()

lemma emit (here : Cursor) (text : String) : unmarking.Allows (emit here text) := by
  refine .of_done fun m outcome n ran => ?_
  cases ran
  cases emits : here.phase.emits with
  | true =>
    exact ⟨[.instruction here.depth text], by simp [Machine.written, Transcript.emit, emits], rfl⟩
  | false => exact ⟨[], by simp [Machine.written, Transcript.emit, emits], rfl⟩

end Unmarking

/-- Lines are added, and those that call blocks account for the calls of some expressions. -/
def Counts (P : Expr → Prop) (es : List Expr) (m n : Machine) : Prop :=
  ∃ added made, n.written = m.written ++ added ∧ markerTexts added = made.map Text.callForm ∧
    Accounts P es made

namespace Counts

variable {P : Expr → Prop} {es es' : List Expr} {l m n : Machine}

lemma of_unmarked (h : unmarking.done m n) : Counts P [] m n := by
  obtain ⟨added, written, none⟩ := h
  exact ⟨added, [], written, none, [], .slnil, by simp, .nil⟩

lemma trans (h : Counts P es l m) (h' : Counts P es' m n) : Counts P (es ++ es') l n := by
  obtain ⟨added, made, written, marks, accounts⟩ := h
  obtain ⟨added', made', written', marks', accounts'⟩ := h'
  refine ⟨added ++ added', made ++ made', ?_, ?_, accounts.append accounts'⟩
  · rw [written', written, List.append_assoc]
  · rw [markerTexts_append, marks, marks', List.map_append]

lemma before (first : unmarking.done l m) (h : Counts P es m n) : Counts P es l n :=
  trans (of_unmarked first) h

lemma after (h : Counts P es l m) (last : unmarking.done m n) : Counts P es l n := by
  have both := trans h (of_unmarked last)
  rw [List.append_nil] at both
  exact both

/-- An expression that makes no calls but those of its parts. -/
lemma whole {e : Expr} (calls : e.calls = callsOf es)
    (connectives : e.connectives = connectivesOf es) (h : Counts P es m n) : Counts P [e] m n := by
  obtain ⟨added, made, written, marks, accounts⟩ := h
  refine ⟨added, made, written, marks, ?_⟩
  have account : Accounts P [e] (made ++ []) :=
    accounts.whole (by rw [calls, List.append_nil]) connectives
  rw [List.append_nil] at account
  exact account

/-- An expression that makes no calls. -/
lemma of_callFree {e : Expr} (calls : e.calls = []) (connectives : e.connectives = [])
    (h : unmarking.done m n) : Counts P [e] m n := by
  have none : e.calls = callsOf [] := calls
  exact whole none connectives (of_unmarked h)

end Counts

/-! ## The walk -/

/-- A connective is decided by its left operand where the evaluation of a point comes to it. -/
inductive Decided (functions : String → Option Function) (p : Point) : Expr → Prop where
  | mk {fuel here left op right span m lhs l n}
    (comes :
      ComesTo functions p ⟨fuel + 1, .form here (.binary left (.logical op) right span), m⟩)
    (done : expr functions fuel here left m = some (.ok lhs, n))
    (holds : lhs.expectBool = .ok l) (decides : op.decidedBy l = true) :
    Decided functions p (.binary left (.logical op) right span)

variable (functions : String → Option Function) (root : Point)

/-- Where the evaluation of a point comes to a task, and the task comes to a result, the lines that
it adds account for the calls of some expressions. -/
def Counted (fuel : Nat) (task : Task) (es : List Expr) : Prop :=
  ∀ ⦃m a n⦄, ComesTo functions root ⟨fuel, task, m⟩ →
    task.evaluate functions fuel m = some (.ok a, n) → Counts (Decided functions root) es m n

/-- Dry code accounts for its calls, with so much fuel. -/
structure Counting (fuel : Nat) : Prop where
  expr : ∀ {here : Cursor}, here.phase = .dry → ∀ e, Counted functions root fuel (.expr here e) [e]
  form : ∀ {here : Cursor}, here.phase = .dry → ∀ e, Counted functions root fuel (.form here e) [e]
  sense : ∀ {here : Cursor}, here.phase = .dry → ∀ sensor span,
    Counted functions root fuel (.sense here sensor) [.sense sensor span]
  call : ∀ {here : Cursor}, here.phase = .dry → ∀ site span,
    Counted functions root fuel (.call here site) [.call site span]
  arguments : ∀ {here : Cursor}, here.phase = .dry → ∀ function params args,
    args.length = params.length →
      Counted functions root fuel (.arguments here function params args) args
  argument : ∀ {here : Cursor}, here.phase = .dry → ∀ function param arg,
    Counted functions root fuel (.argument here function param arg) [arg]
  stmts : ∀ {here : Cursor}, here.phase = .dry → ∀ statements,
    Counted functions root fuel (.stmts here statements) (expressionsOf statements)
  stmt : ∀ {here : Cursor}, here.phase = .dry → ∀ s,
    Counted functions root fuel (.stmt here s) s.expressions
  branch : ∀ {here : Cursor}, here.phase = .dry → ∀ block taken,
    Counted functions root fuel (.branch here block taken) block.expressions
  firstRound : ∀ {here : Cursor}, here.phase = .dry → ∀ condition body entered,
    Counted functions root fuel (.firstRound here condition body entered) body.expressions
  numbers : ∀ {here : Cursor}, here.phase = .dry → ∀ args,
    Counted functions root fuel (.numbers here args) args

namespace Counting

variable {functions root} {fuel : Nat} {here : Cursor} {m n : Machine}
  (ih : Counting functions root fuel) (dry : here.phase = .dry)
include ih dry

/-! ### Expressions and calls -/

lemma expr_succ (e : Expr) : Counted functions root (fuel + 1) (.expr here e) [e] := by
  intro m value n comes ran
  rw [Task.evaluate, Eval.expr, currentLine_bind] at ran
  obtain ⟨_, l, enters, ran⟩ := bind_eq_ok.mp ran
  obtain ⟨_, l', formed, ran⟩ := bind_eq_ok.mp ran
  have rest : unmarking.done l' n :=
    Effect.Allows.bind (Unmarking.of_quiet (.setLine _)) (fun _ => .pure _) ran
  have inner := ih.form dry e (comes.tail (.form enters)) formed
  exact .before (Unmarking.enterSpan _ enters) (inner.after rest)

lemma sense_succ (sensor : Sensor) (span : Span) :
    Counted functions root (fuel + 1) (.sense here sensor) [.sense sensor span] := by
  intro m value n comes ran
  rw [Task.evaluate] at ran
  cases sensor with
  | look direction =>
    rw [Eval.sense] at ran
    obtain ⟨_, l, evaluated, ran⟩ := bind_eq_ok.mp ran
    have rest : unmarking.done l n := Effect.Allows.bind (.ofExcept _) (fun _ => .pure _) ran
    have inner := ih.expr dry direction (comes.tail .direction) evaluated
    exact .whole (callsOf_singleton _).symm (connectivesOf_singleton _).symm (inner.after rest)
  | _ =>
    cases ran
    exact .of_callFree rfl rfl (unmarking.done_refl _)

/-- Where both operands are evaluated and combined to a result. -/
lemma operands {left right : Expr} {op : BinOp} {span : Span} {value : Value}
    (plain : ∀ connective, op ≠ .logical connective) {combine : Value → Value → Except Fault Value}
    (comes : ComesTo functions root ⟨fuel + 1, .form here (.binary left op right span), m⟩)
    (ran : (do
      let lhs ← Eval.expr functions fuel here left
      let rhs ← Eval.expr functions fuel here right
      Eval.ofExcept (combine lhs rhs)) m = some (.ok value, n)) :
    Counts (Decided functions root) [.binary left op right span] m n := by
  obtain ⟨lhs, l, first, ran⟩ := bind_eq_ok.mp ran
  obtain ⟨rhs, l', second, ran⟩ := bind_eq_ok.mp ran
  have rest : unmarking.done l' n := Effect.Allows.ofExcept _ ran
  have onLeft := ih.expr dry left (comes.tail .left) first
  have onRight := ih.expr dry right
    (comes.tail (.right first fun connective same => absurd same (plain connective))) second
  refine .whole ?_ ?_ ((onLeft.trans onRight).after rest)
  · simp [Expr.calls, callsOf]
  · cases op with
    | logical connective => exact absurd rfl (plain connective)
    | bitwise | relational | arithmetic => simp [Expr.connectives, connectivesOf]

lemma connective {left right : Expr} {op : Connective} {span : Span} {value : Value}
    (comes : ComesTo functions root
      ⟨fuel + 1, .form here (.binary left (.logical op) right span), m⟩)
    (ran : Eval.form functions (fuel + 1) here (.binary left (.logical op) right span) m =
      some (.ok value, n)) :
    Counts (Decided functions root) [.binary left (.logical op) right span] m n := by
  rw [Eval.form] at ran
  obtain ⟨lhs, l, first, ran⟩ := bind_eq_ok.mp ran
  obtain ⟨b, l', tested, ran⟩ := bind_eq_ok.mp ran
  obtain ⟨holds, rfl⟩ : lhs.expectBool = .ok b ∧ l = l' := by
    simpa using tested
  obtain ⟨added, made, written, marks, accounts⟩ := ih.expr dry left (comes.tail .left) first
  cases decides : op.decidedBy b with
  | true =>
    -- the right operand is left alone, and the connective is spared
    rw [decides, if_pos rfl] at ran
    cases ran
    exact ⟨added, made, written, marks, .of_decided (.mk comes first holds decides) accounts⟩
  | false =>
    rw [decides, if_neg Bool.false_ne_true] at ran
    obtain ⟨rhs, l', second, ran⟩ := bind_eq_ok.mp ran
    have rest : unmarking.done l' n := Effect.Allows.bind (.ofExcept _) (fun _ => .pure _) ran
    have undecided : ∀ connective, BinOp.logical op = .logical connective →
        ∃ l, lhs.expectBool = .ok l ∧ connective.decidedBy l = false := by
      rintro connective ⟨⟩
      exact ⟨b, holds, decides⟩
    obtain ⟨added', made', written', marks', accounts'⟩ :=
      (ih.expr dry right (comes.tail (.right first undecided)) second).after rest
    refine ⟨added ++ added', made ++ made', ?_, ?_, accounts.of_undecided accounts'⟩
    · rw [written', written, List.append_assoc]
    · rw [markerTexts_append, marks, marks', List.map_append]

lemma form_succ (e : Expr) : Counted functions root (fuel + 1) (.form here e) [e] := by
  intro m value n comes ran
  rw [Task.evaluate] at ran
  cases e with
  | integer | boolean | string | color =>
    cases ran
    exact .of_callFree rfl rfl (unmarking.done_refl _)
  | var name span =>
    rw [Eval.form] at ran
    refine .of_callFree rfl rfl ?_
    exact Effect.Allows.bind (.lookup _) (fun _ => .bind (.ofExcept _) fun _ => .pure _) ran
  | element array index span =>
    rw [Eval.form] at ran
    obtain ⟨_, l, evaluated, ran⟩ := bind_eq_ok.mp ran
    have rest : unmarking.done l n :=
      Effect.Allows.bind (.ofExcept _) (fun _ => .bind (.lookup _) fun _ =>
        .bind (.ofExcept _) fun _ => .bind (.ofExcept _) fun _ => .pure _) ran
    have inner := ih.expr dry index (comes.tail .index) evaluated
    exact .whole (callsOf_singleton _).symm (connectivesOf_singleton _).symm (inner.after rest)
  | call site span =>
    rw [Eval.form] at ran
    obtain ⟨result, l, called, ran⟩ := bind_eq_ok.mp ran
    have rest : unmarking.done l n := by
      cases nothing : result.isVoid with
      | true =>
        rw [nothing] at ran
        cases ran
      | false =>
        rw [nothing] at ran
        exact Effect.Allows.pure _ ran
    exact (ih.call dry site span (comes.tail .call) called).after rest
  | sense sensor span =>
    rw [Eval.form] at ran
    exact ih.sense dry sensor span (comes.tail .sense) ran
  | binary left op right span =>
    cases op with
    | logical op => exact ih.connective dry comes ran
    | arithmetic op =>
      rw [Eval.form] at ran
      exact ih.operands dry (fun _ same => by cases same) comes ran
    | relational op =>
      rw [Eval.form] at ran
      exact ih.operands dry (fun _ same => by cases same) comes ran
    | bitwise op =>
      rw [Eval.form] at ran
      exact ih.operands dry (fun _ same => by cases same) comes ran
  | unary op operand span =>
    rw [Eval.form] at ran
    obtain ⟨_, l, evaluated, ran⟩ := bind_eq_ok.mp ran
    have rest : unmarking.done l n := Effect.Allows.ofExcept _ ran
    have inner := ih.expr dry operand (comes.tail .operand) evaluated
    exact .whole (callsOf_singleton _).symm (connectivesOf_singleton _).symm (inner.after rest)
  | paren inner span =>
    rw [Eval.form] at ran
    obtain ⟨_, l, evaluated, ran⟩ := bind_eq_ok.mp ran
    have rest : unmarking.done l n := Effect.Allows.pure _ ran
    have within := ih.expr dry inner (comes.tail .inner) evaluated
    exact .whole (callsOf_singleton _).symm (connectivesOf_singleton _).symm (within.after rest)

/-- The call itself is written after the calls in its arguments. -/
lemma call_succ (site : Call) (span : Span) :
    Counted functions root (fuel + 1) (.call here site) [.call site span] := by
  intro m value n comes ran
  rw [Task.evaluate] at ran
  cases declared : functions site.name.name with
  | none =>
    rw [call_of_undeclared functions declared] at ran
    cases ran
  | some function =>
    by_cases fits : site.args.length = function.params.length
    · rw [call_eq_gather declared fits, dry] at ran
      obtain ⟨slots, l, gathered, ran⟩ := bind_eq_ok.mp ran
      cases ran
      obtain ⟨slots', l', passed, marked⟩ := bind_eq_ok.mp gathered
      cases marked
      -- its own line comes last, after those of the calls in the arguments
      obtain ⟨added, made, written, marks, accounts⟩ :=
        ih.arguments dry function _ _ fits (comes.tail (.arguments declared fits)) passed
      refine ⟨added ++ [.marker here.depth (Text.callForm site.name.name)],
        made ++ [site.name.name], ?_, ?_, accounts.whole ?_ ?_⟩
      · rw [← List.append_assoc, ← written]
        exact Transcript.toList_add _ _
      · rw [markerTexts_append, marks, List.map_append]
        rfl
      · cases site
        rfl
      · cases site
        rfl
    · rw [call_of_declared functions declared, if_pos fits] at ran
      cases ran

lemma arguments_succ (function : Function) (params : List Param) (args : List Expr)
    (fits : args.length = params.length) :
    Counted functions root (fuel + 1) (.arguments here function params args) args := by
  intro m slots n comes ran
  rw [Task.evaluate] at ran
  cases args with
  | nil =>
    cases params with
    | nil =>
      cases ran
      exact .of_unmarked (unmarking.done_refl _)
    | cons param params => cases fits
  | cons arg args =>
    cases params with
    | nil => cases fits
    | cons param params =>
      rw [Eval.arguments] at ran
      obtain ⟨slot, l, first, ran⟩ := bind_eq_ok.mp ran
      obtain ⟨others, l', second, ran⟩ := bind_eq_ok.mp ran
      cases ran
      have here' := ih.argument dry function param arg (comes.tail .argument) first
      have there := ih.arguments dry function params args (Nat.succ.inj fits)
        (comes.tail (.nextArguments first)) second
      exact here'.trans there

/-- What is passed by reference is a variable, in which nothing is called. -/
lemma argument_succ (function : Function) (param : Param) (arg : Expr) :
    Counted functions root (fuel + 1) (.argument here function param arg) [arg] := by
  intro m slot n comes ran
  rw [Task.evaluate, Eval.argument] at ran
  cases mode : param.isReference with
  | true =>
    rw [mode, if_pos rfl] at ran
    cases named : arg.variableName? with
    | none =>
      rw [named] at ran
      cases ran
    | some name =>
      have callFree : arg.calls = [] ∧ arg.connectives = [] := by
        cases arg with
        | var => exact ⟨rfl, rfl⟩
        | _ => cases named
      rw [named] at ran
      refine .of_callFree callFree.1 callFree.2 ?_
      refine Effect.Allows.bind (.slotOf name) (fun found => ?_) ran
      cases found with
      | some slot => exact .pure slot
      | none =>
        dsimp only
        rw [if_pos dry]
        exact Unmarking.of_quiet (.newSlot _)
  | false =>
    rw [mode, if_neg Bool.false_ne_true] at ran
    obtain ⟨value, l, evaluated, ran⟩ := bind_eq_ok.mp ran
    have rest : unmarking.done l n := Unmarking.of_quiet (.newSlot _) ran
    exact (ih.expr dry arg (comes.tail (.byValue mode)) evaluated).after rest

lemma numbers_succ (args : List Expr) :
    Counted functions root (fuel + 1) (.numbers here args) args := by
  intro m texts n comes ran
  rw [Task.evaluate] at ran
  cases args with
  | nil =>
    cases ran
    exact .of_unmarked (unmarking.done_refl _)
  | cons arg args =>
    rw [Eval.numbers] at ran
    obtain ⟨value, l, evaluated, ran⟩ := bind_eq_ok.mp ran
    obtain ⟨number, l', tested, ran⟩ := bind_eq_ok.mp ran
    obtain ⟨others, l'', second, ran⟩ := bind_eq_ok.mp ran
    cases ran
    have done : (do
        let value ← Eval.expr functions fuel here arg
        Eval.ofExcept value.expectInt) m = some (.ok number, l') :=
      (bind_of_ok evaluated).trans tested
    have first := ih.expr dry arg (comes.tail .number) evaluated
    have there := ih.numbers dry args (comes.tail (.nextNumbers done)) second
    exact (first.after (Effect.Allows.ofExcept _ tested)).trans there

/-! ### Statements -/

/-- A condition that is tested and written. -/
lemma test_of {condition : Expr} {word : String} {span : Span} {taken : Bool}
    (comes : ∀ l, enterSpan span m = some (.ok (), l) →
      ComesTo functions root ⟨fuel, .expr here condition, l⟩)
    (tested : test functions fuel here span word condition m = some (.ok taken, n)) :
    Counts (Decided functions root) [condition] m n := by
  obtain ⟨_, l, enters, ran⟩ := bind_eq_ok.mp tested
  obtain ⟨_, l', evaluated, ran⟩ := bind_eq_ok.mp ran
  have rest : unmarking.done l' n :=
    Effect.Allows.bind (.ofExcept _) (fun _ => .bind (Unmarking.emit _ _) fun _ => .pure _) ran
  have inner := ih.expr dry condition (comes l enters) evaluated
  exact .before (Unmarking.enterSpan _ enters) (inner.after rest)

/-- A statement with one expression, and more that calls no block. -/
lemma single {α : Type} {a : α} {e : Expr} {span : Span} {tail : Value → Eval α}
    (plain : ∀ value, unmarking.Allows (tail value))
    (comes : ∀ l, enterSpan span m = some (.ok (), l) →
      ComesTo functions root ⟨fuel, .expr here e, l⟩)
    (ran : (do
      enterSpan span
      let value ← Eval.expr functions fuel here e
      tail value) m = some (.ok a, n)) :
    Counts (Decided functions root) [e] m n := by
  obtain ⟨_, l, enters, ran⟩ := bind_eq_ok.mp ran
  obtain ⟨value, l', evaluated, ran⟩ := bind_eq_ok.mp ran
  have inner := ih.expr dry e (comes l enters) evaluated
  exact .before (Unmarking.enterSpan _ enters) (inner.after (plain value ran))

lemma stmts_succ (statements : List Stmt) :
    Counted functions root (fuel + 1) (.stmts here statements) (expressionsOf statements) := by
  intro m flow n comes ran
  rw [Task.evaluate] at ran
  cases statements with
  | nil =>
    cases ran
    exact .of_unmarked (unmarking.done_refl _)
  | cons s rest =>
    rw [stmts_cons_of_dry functions dry] at ran
    obtain ⟨_, l, first, ran⟩ := bind_eq_ok.mp ran
    have head := ih.stmt dry s (comes.tail .stmt) first
    exact head.trans (ih.stmts dry rest (comes.tail (.nextStmts first (Or.inr dry))) ran)

lemma branch_succ (block : Block) (taken : Bool) :
    Counted functions root (fuel + 1) (.branch here block taken) block.expressions := by
  intro m flow n comes ran
  rw [Task.evaluate, branch_of_dry functions dry] at ran
  obtain ⟨_, l, inner, ran⟩ := bind_eq_ok.mp ran
  cases ran
  have inside : here.deeper.phase = .dry := dry
  rw [block.expressions_eq]
  exact ih.stmts inside block.stmts (comes.tail (.branch (Or.inr dry))) inner

lemma firstRound_succ (condition : Expr) (body : Block) (entered : Bool) :
    Counted functions root (fuel + 1) (.firstRound here condition body entered)
      body.expressions := by
  intro m flow n comes ran
  rw [Task.evaluate, firstRound_of_dry functions dry] at ran
  obtain ⟨_, l, inner, ran⟩ := bind_eq_ok.mp ran
  cases ran
  have inside : here.deeper.phase = .dry := dry
  rw [body.expressions_eq]
  exact ih.stmts inside body.stmts (comes.tail (.dryRound dry)) inner

lemma ifThen {condition : Expr} {thenBlock : Block} {elseBlock : Option Block} {span : Span}
    {flow : Flow}
    (comes : ComesTo functions root
      ⟨fuel + 1, .stmt here (.ifThen condition thenBlock elseBlock span), m⟩)
    (ran : Eval.stmt functions (fuel + 1) here (.ifThen condition thenBlock elseBlock span) m =
      some (.ok flow, n)) :
    Counts (Decided functions root) (Stmt.ifThen condition thenBlock elseBlock span).expressions
      m n := by
  rw [stmt_ifThen_eq_test] at ran
  obtain ⟨taken, l, tested, ran⟩ := bind_eq_ok.mp ran
  obtain ⟨first, l', walked, ran⟩ := bind_eq_ok.mp ran
  obtain ⟨both, l'', second, ran⟩ := bind_eq_ok.mp ran
  have rest : unmarking.done l'' n :=
    Effect.Allows.bind (Unmarking.emit _ _) (fun _ => .pure _) ran
  have head := ih.test_of dry (fun _ enters => comes.tail (.condition enters)) tested
  have inThen := ih.branch dry thenBlock taken (comes.tail (.thenBranch tested)) walked
  refine head.trans (inThen.trans ?_)
  cases elseBlock with
  | none =>
    cases second
    exact .of_unmarked rest
  | some elseBlock =>
    obtain ⟨_, k, written, second⟩ := bind_eq_ok.mp second
    obtain ⟨_, k', walked', ended⟩ := bind_eq_ok.mp second
    cases ended
    have done : (do
        let taken ← test functions fuel here span "if " condition
        let _ ← Eval.branch functions fuel here thenBlock taken
        emit here "else"
        return taken) m = some (.ok taken, k) :=
      (bind_of_ok tested).trans ((bind_of_ok walked).trans (bind_of_ok written))
    have inElse := ih.branch dry elseBlock (!taken) (comes.tail (.elseBranch done)) walked'
    exact .before (Unmarking.emit _ _ written) (inElse.after rest)

lemma assign {target : Target} {value : Expr} {span : Span} {flow : Flow}
    (comes : ComesTo functions root ⟨fuel + 1, .stmt here (.assign target value span), m⟩)
    (ran : Eval.stmt functions (fuel + 1) here (.assign target value span) m =
      some (.ok flow, n)) :
    Counts (Decided functions root) (Stmt.assign target value span).expressions m n := by
  cases target with
  | var target =>
    rw [Eval.stmt] at ran
    refine ih.single dry (fun _ => ?_) (fun _ enters => comes.tail (.assigned enters)) ran
    exact .bind (Unmarking.emit _ _) fun _ =>
      .bind (Unmarking.of_quiet (.define _ _)) fun _ => .pure _
  | element array index =>
    rw [Eval.stmt] at ran
    obtain ⟨_, l, enters, ran⟩ := bind_eq_ok.mp ran
    obtain ⟨stored, l', evaluated, ran⟩ := bind_eq_ok.mp ran
    obtain ⟨place, l'', placed, ran⟩ := bind_eq_ok.mp ran
    have rest : unmarking.done l'' n :=
      Effect.Allows.bind (.ofExcept _) (fun _ => .bind (Unmarking.emit _ _) fun _ =>
        .bind (Unmarking.of_quiet (.storeElement _ _ _)) fun _ =>
          .bind (.ofExcept _) fun _ => .pure _) ran
    have done : (do
        enterSpan span
        Eval.expr functions fuel here value) m = some (.ok stored, l') :=
      (bind_of_ok enters).trans evaluated
    have first := ih.expr dry value (comes.tail (.assigned enters)) evaluated
    have second := ih.expr dry index (comes.tail (.position done)) placed
    exact .before (Unmarking.enterSpan _ enters) (first.trans (second.after rest))

lemma stmt_succ (s : Stmt) :
    Counted functions root (fuel + 1) (.stmt here s) s.expressions := by
  intro m flow n comes ran
  rw [Task.evaluate] at ran
  cases s with
  | assign target value span => exact ih.assign dry comes ran
  | ifThen condition thenBlock elseBlock span => exact ih.ifThen dry comes ran
  | whileDo condition body span =>
    rw [stmt_whileDo_eq_test] at ran
    obtain ⟨entered, l, tested, ran⟩ := bind_eq_ok.mp ran
    obtain ⟨_, l', walked, ran⟩ := bind_eq_ok.mp ran
    have rest : unmarking.done l' n :=
      Effect.Allows.bind (Unmarking.emit _ _) (fun _ => .pure _) ran
    have head := ih.test_of dry (fun _ enters => comes.tail (.loopCondition enters)) tested
    have inner := ih.firstRound dry condition body entered (comes.tail (.firstRound tested)) walked
    exact head.trans (inner.after rest)
  | giveBack value span =>
    cases value with
    | none =>
      rw [Eval.stmt] at ran
      refine .of_unmarked (Effect.Allows.bind (Unmarking.enterSpan _) (fun _ => ?_) ran)
      exact .bind (Unmarking.emit _ _) fun _ => .pure _
    | some value =>
      rw [Eval.stmt] at ran
      refine ih.single dry (fun _ => ?_) (fun _ enters => comes.tail (.given enters)) ran
      exact .bind (Unmarking.emit _ _) fun _ => .pure _
  | read target span =>
    rw [Eval.stmt] at ran
    refine .of_unmarked (Effect.Allows.bind (Unmarking.enterSpan _) (fun _ => ?_) ran)
    dsimp only
    split
    · exact .bind (Unmarking.of_quiet .nextInteger) fun _ =>
        .bind (Unmarking.of_quiet (.define _ _)) fun _ => .pure _
    · exact .bind (Unmarking.of_quiet (.define _ _)) fun _ => .pure _
  | write value span =>
    rw [Eval.stmt] at ran
    refine ih.single dry (fun _ => ?_) (fun _ enters => comes.tail (.printed enters)) ran
    exact .bind (Unmarking.emit _ _) fun _ => .pure _
  | actuate actuator args span =>
    rw [Eval.stmt] at ran
    obtain ⟨_, l, enters, ran⟩ := bind_eq_ok.mp ran
    obtain ⟨_, l', evaluated, ran⟩ := bind_eq_ok.mp ran
    have rest : unmarking.done l' n :=
      Effect.Allows.bind (Unmarking.emit _ _) (fun _ => .pure _) ran
    have inner := ih.numbers dry args (comes.tail (.numbers enters)) evaluated
    exact .before (Unmarking.enterSpan _ enters) (inner.after rest)
  | paint color span =>
    rw [Eval.stmt] at ran
    refine ih.single dry (fun _ => ?_) (fun _ enters => comes.tail (.painted enters)) ran
    exact .bind (.ofExcept _) fun _ => .bind (Unmarking.emit _ _) fun _ => .pure _
  | pen down span =>
    rw [Eval.stmt] at ran
    refine .of_unmarked (Effect.Allows.bind (Unmarking.enterSpan _) (fun _ => ?_) ran)
    exact .bind (Unmarking.emit _ _) fun _ => .pure _
  | sense sensor span =>
    rw [Eval.stmt] at ran
    obtain ⟨_, l, enters, ran⟩ := bind_eq_ok.mp ran
    obtain ⟨_, l', evaluated, ran⟩ := bind_eq_ok.mp ran
    have rest : unmarking.done l' n :=
      Effect.Allows.bind (Unmarking.emit _ _) (fun _ => .pure _) ran
    have inner := ih.sense dry sensor span (comes.tail (.reading enters)) evaluated
    exact .before (Unmarking.enterSpan _ enters) (inner.after rest)
  | call site =>
    rw [Eval.stmt] at ran
    obtain ⟨_, l, enters, ran⟩ := bind_eq_ok.mp ran
    obtain ⟨_, l', called, ran⟩ := bind_eq_ok.mp ran
    have rest : unmarking.done l' n := Effect.Allows.pure _ ran
    have inner := ih.call dry site site.span (comes.tail (.performed enters)) called
    exact .before (Unmarking.enterSpan _ enters) (inner.after rest)

end Counting

lemma Counted.of_noFuel (task : Task) (es : List Expr) : Counted functions root 0 task es := by
  intro m a n _ ran
  cases task <;> cases ran

/-- Dry code accounts for its calls, wherever an evaluation comes to it. -/
theorem counting (fuel : Nat) : Counting functions root fuel := by
  induction fuel with
  | zero =>
    exact {
      expr := fun _ _ => .of_noFuel _ _ _ _
      form := fun _ _ => .of_noFuel _ _ _ _
      sense := fun _ _ _ => .of_noFuel _ _ _ _
      call := fun _ _ _ => .of_noFuel _ _ _ _
      arguments := fun _ _ _ _ _ => .of_noFuel _ _ _ _
      argument := fun _ _ _ _ => .of_noFuel _ _ _ _
      stmts := fun _ _ => .of_noFuel _ _ _ _
      stmt := fun _ _ => .of_noFuel _ _ _ _
      branch := fun _ _ _ => .of_noFuel _ _ _ _
      firstRound := fun _ _ _ _ => .of_noFuel _ _ _ _
      numbers := fun _ _ => .of_noFuel _ _ _ _ }
  | succ fuel ih =>
    exact {
      expr := ih.expr_succ
      form := ih.form_succ
      sense := ih.sense_succ
      call := ih.call_succ
      arguments := ih.arguments_succ
      argument := ih.argument_succ
      stmts := ih.stmts_succ
      stmt := ih.stmt_succ
      branch := ih.branch_succ
      firstRound := ih.firstRound_succ
      numbers := ih.numbers_succ }

/-! ## Prepared blocks -/

namespace Session

section

variable {functions} {fuel : Nat}

lemma prepareAll_append (list list' : List Function) :
    prepareAll functions fuel (list ++ list') = (do
      prepareAll functions fuel list
      prepareAll functions fuel list') := by
  induction list with
  | nil => rfl
  | cons function rest ih => rw [List.cons_append, prepareAll, prepareAll, ih, bind_assoc]

/-- Blocks are added to what has been written. -/
lemma prefix_of_prepareAll {list : List Function} {m n : Machine}
    (ran : prepareAll functions fuel list m = some (.ok (), n)) :
    ∃ added, n.written = m.written ++ added := by
  obtain ⟨added, written, -⟩ := (settles_prepareAll functions fuel list).done ran
  exact ⟨added, written⟩

lemma written_of_defineStandIns {params : List Param} :
    ∀ {m n}, defineStandIns params m = some (.ok (), n) → n.written = m.written := by
  induction params with
  | nil =>
    intro m n ran
    cases ran
    rfl
  | cons param rest ih =>
    intro m n ran
    obtain ⟨_, l, defined, ran⟩ := bind_eq_ok.mp ran
    cases defined
    have same := ih ran
    exact same

variable (functions fuel) in
/-- All that comes before the walk through the body of a function in a list. -/
def beforeWalk (before : List Function) (function : Function) : Eval Unit := do
  prepareAll functions fuel before
  label (function.name.name ++ ":")
  enterBlock function
  defineStandIns function.params

/-- The block of a function is its label, what the walk through its body adds, and a closing
label. -/
lemma walk_of_prepareAll {before after : List Function} {function : Function} {l t : Machine}
    (ran : prepareAll functions fuel (before ++ function :: after) l = some (.ok (), t)) :
    ∃ m n flow later, beforeWalk functions fuel before function l = some (.ok (), m) ∧
      m.written.getLast? = some (.label (function.name.name ++ ":")) ∧
      stmts functions fuel (Cursor.top .dry).deeper function.body.stmts m = some (.ok flow, n) ∧
      t.written = n.written ++ .label "Return" :: later := by
  -- the preparation is taken apart step by step, with the machine that each step leads to
  rw [prepareAll_append, prepareAll, prepareFunction_eq, writeBlock] at ran
  simp only [bind_assoc, pure_bind] at ran
  obtain ⟨_, k, prepared, ran⟩ := bind_eq_ok.mp ran
  obtain ⟨_, k₁, labelled, ran⟩ := bind_eq_ok.mp ran
  obtain ⟨_, k₂, entered, ran⟩ := bind_eq_ok.mp ran
  obtain ⟨_, m, defined, ran⟩ := bind_eq_ok.mp ran
  obtain ⟨flow, n, walked, ran⟩ := bind_eq_ok.mp ran
  obtain ⟨_, n₁, popped, ran⟩ := bind_eq_ok.mp ran
  obtain ⟨_, n₂, closed, ran⟩ := bind_eq_ok.mp ran
  obtain ⟨later, rest⟩ := prefix_of_prepareAll ran
  refine ⟨m, n, flow, later, ?_, ?_, walked, ?_⟩
  · exact (bind_of_ok prepared).trans
      ((bind_of_ok labelled).trans ((bind_of_ok entered).trans defined))
  · cases labelled
    cases entered
    have opened : m.written = k.written ++ [.label (function.name.name ++ ":")] :=
      (written_of_defineStandIns defined).trans (Transcript.toList_add _ _)
    rw [opened, List.getLast?_concat]
  · have ended : n₂.written = n.written ++ [.label "Return"] := by
      cases popped
      cases closed
      exact Transcript.toList_add _ _
    rw [rest, ended, List.append_assoc]
    rfl

end

/-- The machine from which a preparation walks through the body of a function. -/
def WalksFrom (s : Session) (fuel : Nat) (function : Function) (m : Machine) : Prop :=
  ∃ before after, s.preparable = before ++ function :: after ∧
    beforeWalk s.declarations.find? fuel before function s.machine = some (.ok (), m)

variable {s t : Session} {fuel : Nat}

/-- **A block has every call site of its function, but for what decided connectives leave alone.**
When the first preparation succeeds, each function has a block, which is what the walk through its
body adds.  As often as the block of some function is called in it, that function is called in the
body, in statements and at any depth in expressions; further call sites stand in the right operands
of connectives of the body, and the left operand of each of these connectives decides it where the
walk comes to it. -/
theorem prepared_blocks_account_for_calls (first : s.prepared = false)
    (done : s.prepare fuel = some (.ok (), t)) {function : Function}
    (listed : function ∈ s.preparable) :
    ∃ (m n : Machine) (flow : Flow) (block later : List Entry) (spared : List Expr),
      s.WalksFrom fuel function m ∧
      m.written.getLast? = some (.label (function.name.name ++ ":")) ∧
      stmts s.declarations.find? fuel (Cursor.top .dry).deeper function.body.stmts m =
        some (.ok flow, n) ∧
      n.written = m.written ++ block ∧
      t.machine.written = n.written ++ .label "Return" :: later ∧
      spared.Sublist (connectivesOf function.body.expressions) ∧
      (∀ e ∈ spared, Decided s.declarations.find?
        ⟨fuel, .stmts (Cursor.top .dry).deeper function.body.stmts, m⟩ e) ∧
      ∀ g, (callsOf function.body.expressions).count g =
        (markerTexts block).count (Text.callForm g) + (spared.flatMap Expr.rightCalls).count g := by
  rw [prepare, first, if_neg Bool.false_ne_true, perform_eq_some] at done
  obtain ⟨_ | ⟨⟨⟩⟩, l, ran, ends, rfl⟩ := done
  · cases ends
  obtain ⟨before, after, list⟩ := List.append_of_mem listed
  rw [list] at ran
  obtain ⟨m, n, flow, later, started, opened, walked, closed⟩ := walk_of_prepareAll ran
  obtain ⟨block, made, written, marks, spared, sub, decided, perm⟩ :=
    (counting s.declarations.find? _ fuel).stmts rfl function.body.stmts .refl walked
  refine ⟨m, n, flow, block, later, spared, ⟨before, after, list, started⟩, opened, walked, written,
    closed, ?_, decided, fun g => ?_⟩
  · rw [Block.expressions_eq]
    exact sub
  · rw [Block.expressions_eq, perm.count_eq, List.count_append, marks,
      List.count_map_of_injective _ _ Text.callForm_injective]

/-- The function of that session that calls itself and another one. -/
def counterDown : Function := counterSession.preparable.head (by decide)

theorem prepared_blocks_account_for_calls_down :
    ∃ (t : Session) (m n : Machine) (flow : Flow) (block : List Entry) (spared : List Expr),
      counterSession.prepare 20 = some (.ok (), t) ∧
      counterSession.WalksFrom 20 counterDown m ∧
      stmts counterSession.declarations.find? 20 (Cursor.top .dry).deeper
        counterDown.body.stmts m = some (.ok flow, n) ∧
      n.written = m.written ++ block ∧
      (∀ e ∈ spared, Decided counterSession.declarations.find?
        ⟨20, .stmts (Cursor.top .dry).deeper counterDown.body.stmts, m⟩ e) ∧
      2 = (markerTexts block).count "odd()" + (spared.flatMap Expr.rightCalls).count "odd" := by
  have prepares : (counterSession.prepare 20).map (·.1.isOk) = some true := by decide +kernel
  obtain ⟨⟨outcome, t⟩, done, ends⟩ := Option.map_eq_some_iff.mp prepares
  cases outcome with
  | error fault => cases ends
  | ok =>
    obtain ⟨m, n, flow, block, later, spared, starts, -, walked, written, -, -, decided, counts⟩ :=
      prepared_blocks_account_for_calls (s := counterSession) rfl done
        (List.head_mem (by decide) : counterDown ∈ counterSession.preparable)
    have sites : (callsOf counterDown.body.expressions).count "odd" = 2 := by decide +kernel
    exact ⟨t, m, n, flow, block, spared, done, starts, walked, written, decided,
      sites.symm.trans (counts "odd")⟩

/-- A block may lack a call site.  The function calls another one twice, in the right operand of a
connective and in a loop.  What stands in for its parameter makes the left operand false, and so the
other function is called once, in all blocks together. -/
theorem prepared_block_lacks_call_site :
    Session.load counters .standard ⟨[], []⟩ (fun path => .error (.io path)) =
      .ok counterSession ∧
    counterDown ∈ counterSession.preparable ∧
    (callsOf counterDown.body.expressions).count "odd" = 2 ∧
    ∃ t, counterSession.prepare 20 = some (.ok (), t) ∧
      (markerTexts t.machine.written).count (Text.callForm "odd") = 1 := by
  have prepares : (counterSession.prepare 20).map (fun stop =>
        (stop.1.isOk, (markerTexts stop.2.machine.written).count (Text.callForm "odd"))) =
      some (true, 1) := by
    decide +kernel
  obtain ⟨⟨outcome, t⟩, done, seen⟩ := Option.map_eq_some_iff.mp prepares
  obtain ⟨ends, once⟩ := Prod.mk.inj seen
  cases outcome with
  | error fault => cases ends
  | ok => exact ⟨rfl, List.head_mem (by decide), by decide +kernel, t, done, once⟩

end Session

end RobotScribe
