/-
# Connectives and negation

The connectives are dual to each other, effects included: to negate `a && b` is to connect the
negations of `a` and `b` by `||`, and the other way round.  A connective that is decided by its left
operand does nothing but evaluate that operand.

As a condition, an expression is judged true or false, or it stops with a fault (`judgement`).
Negations and connectives are judged by the judgements of their operands alone, as computations, so
the laws are equations between these.  They hold where the nodes that are added have no position: a
node with a position would show its own line in the faults of its operands.
-/
import RobotScribe.Proofs.Fuel
import RobotScribe.Proofs.Lines

namespace RobotScribe

/-! ## The forms -/

/-- `!e`. -/
def Expr.negated (e : Expr) : Expr := .unary .not e .unknown

/-- `a && b` or `a || b`. -/
def Expr.connected (a : Expr) (op : Connective) (b : Expr) : Expr :=
  .binary a (.logical op) b .unknown

/-- An expression in a number of pairs of parentheses. -/
def Expr.parenthesized : Nat → Expr → Expr
  | 0, e => e
  | pairs + 1, e => .paren (parenthesized pairs e) .unknown

/-- The other connective. -/
def Connective.dual : Connective → Connective
  | or => and
  | and => or

/-- What decides a connective decides the dual one when it is negated. -/
lemma Connective.dual_decidedBy (op : Connective) (l : Bool) :
    op.dual.decidedBy (!l) = op.decidedBy l := by
  cases op with
  | or => exact Bool.not_not l
  | and => rfl

namespace Value

variable {value : Value}

@[simp] lemma expectBool_withText (value : Value) (text : String) :
    (value.withText text).expectBool = value.expectBool := rfl

lemma negation_of_ok {b : Bool} (holds : value.expectBool = .ok b) :
    value.unary .not = .ok ⟨.boolean (!b), Text.unaryForm "!" value.text⟩ := by
  rw [unary, holds]
  rfl

lemma negation_of_error {fault : Fault} (unlike : value.expectBool = .error fault) :
    value.unary .not = .error fault := by
  rw [unary, unlike]
  rfl

end Value

namespace Eval

variable {α : Type}

lemma ofExcept_ok (a : α) : ofExcept (.ok a) = pure a := rfl

/-- A computation that goes back to its line does not notice a node without a position around it. -/
lemma GoesBack.atSpan_unknown {x : Eval α} (back : GoesBack x) : atSpan .unknown x = x := by
  funext m
  rw [atSpan, currentLine_bind, enterSpan, Span.isKnown_unknown, if_neg Bool.false_ne_true,
    pure_bind]
  rcases ran : x m with _ | ⟨fault | a, n⟩
  · rw [bind_apply, ran]
  · exact bind_of_error ran
  · rw [bind_of_ok ran, ← back.line_eq ran]
    rfl

section

variable (functions : String → Option Function) (fuel : Nat) (here : Cursor)

/-! ## What the forms do -/

lemma expr_negated (e : Expr) :
    expr functions (fuel + 2) here e.negated = (do
      let value ← expr functions fuel here e
      ofExcept (value.unary .not)) := by
  rw [Expr.negated, expr_succ, form]
  exact GoesBack.atSpan_unknown (.bind (expr_goesOn functions fuel here e) fun _ => .ofExcept _)

lemma expr_paren (e : Expr) :
    expr functions (fuel + 2) here (.paren e .unknown) = (do
      let value ← expr functions fuel here e
      return value.withText (Text.parenForm value.text)) := by
  rw [expr_succ, form]
  exact GoesBack.atSpan_unknown (.bind (expr_goesOn functions fuel here e) fun _ => .pure _)

lemma expr_connected (a b : Expr) (op : Connective) :
    expr functions (fuel + 2) here (a.connected op b) = (do
      let lhs ← expr functions fuel here a
      let l ← ofExcept lhs.expectBool
      if op.decidedBy l then return lhs
      else
        let rhs ← expr functions fuel here b
        let r ← ofExcept rhs.expectBool
        return (Value.boolean r).withText (Text.binaryForm lhs.text op.text rhs.text)) := by
  rw [Expr.connected, expr_succ, form]
  refine GoesBack.atSpan_unknown (.bind (expr_goesOn functions fuel here a) fun lhs =>
    .bind (.ofExcept _) fun l => ?_)
  split
  · exact .pure _
  · exact .bind (expr_goesOn functions fuel here b) fun rhs => .bind (.ofExcept _) fun r => .pure _

/-! ## Judgements -/

/-- Judges an expression as a condition. -/
def judgement (e : Expr) : Eval Bool := do
  let value ← expr functions fuel here e
  ofExcept value.expectBool

/-- A computation of a value of which only the data are kept. -/
def withoutText (x : Eval Value) : Eval Payload := do
  let value ← x
  return value.payload

/-- A computation of a truth value. -/
def asBoolean (x : Eval Bool) : Eval Payload := do
  let b ← x
  return .boolean b

/-- An expression that has no other values than truth values is judged by its value. -/
lemma judgement_of_withoutText {e : Expr} {x : Eval Bool}
    (values : withoutText (expr functions fuel here e) = asBoolean x) :
    judgement functions fuel here e = x := by
  have judged : judgement functions fuel here e = (do
      let payload ← withoutText (expr functions fuel here e)
      ofExcept (Value.expectBool ⟨payload, ""⟩)) := by
    rw [withoutText, bind_assoc]
    rfl
  have read (b : Bool) : ofExcept (Value.expectBool ⟨.boolean b, ""⟩) = pure b := rfl
  rw [judged, values, asBoolean, bind_assoc]
  simp [read]

lemma withoutText_negated (e : Expr) :
    withoutText (expr functions (fuel + 2) here e.negated) = asBoolean (do
      let b ← judgement functions fuel here e
      return !b) := by
  simp only [withoutText, asBoolean, judgement, expr_negated, bind_assoc]
  congr 1
  funext value
  cases holds : value.expectBool with
  | ok b =>
    rw [Value.negation_of_ok holds]
    rfl
  | error fault =>
    rw [Value.negation_of_error holds]
    rfl

/-- The second operand is judged if the first one does not decide. -/
lemma withoutText_connected (a b : Expr) (op : Connective) :
    withoutText (expr functions (fuel + 2) here (a.connected op b)) = asBoolean (do
      let l ← judgement functions fuel here a
      if op.decidedBy l then return l else judgement functions fuel here b) := by
  simp only [withoutText, asBoolean, judgement, expr_connected, bind_assoc]
  congr 1
  funext lhs
  cases holds : lhs.expectBool with
  | error fault => rfl
  | ok l =>
    simp only [ofExcept_ok, pure_bind]
    split
    · rw [pure_bind, pure_bind, Value.expectBool_eq_ok.mp holds]
    · simp only [bind_assoc, pure_bind]
      rfl

lemma judgement_parenthesized (pairs : Nat) (e : Expr) :
    judgement functions (fuel + 2 * pairs) here (e.parenthesized pairs) =
      judgement functions fuel here e := by
  induction pairs with
  | zero => rfl
  | succ pairs ih =>
    rw [← ih, Expr.parenthesized, Nat.mul_succ, ← Nat.add_assoc, judgement, expr_paren]
    simp [judgement]

/-- The negation of a connective is the dual one of the negations. -/
lemma withoutText_dual (a b : Expr) (op : Connective) (pairs : Nat) :
    withoutText (expr functions (fuel + 2 + 2 * pairs + 2) here
        ((a.connected op b).parenthesized pairs).negated) =
      withoutText (expr functions (fuel + 2 + 2) here
        (a.negated.connected op.dual b.negated)) := by
  have negation (e : Expr) := judgement_of_withoutText functions _ here
    (withoutText_negated functions fuel here e)
  have connection := judgement_of_withoutText functions _ here
    (withoutText_connected functions fuel here a b op)
  rw [withoutText_negated, withoutText_connected, judgement_parenthesized, connection,
    negation, negation, bind_assoc, bind_assoc]
  congr 2
  funext l
  rw [pure_bind, op.dual_decidedBy]
  split
  · rw [pure_bind]
  · rfl

end

/-! ## Ends -/

variable (functions : String → Option Function) {here : Cursor} {e : Expr} {m n n' : Machine}

/-- With some amount of fuel, an expression comes to an outcome and to a machine. -/
def Comes (here : Cursor) (e : Expr) (m : Machine) (outcome : Except Fault Value) (n : Machine) :
    Prop := ∃ fuel, expr functions fuel here e m = some (outcome, n)

/-- An expression comes to data or to a fault, whatever the text. -/
def Shows (here : Cursor) (e : Expr) (m : Machine) (outcome : Except Fault Payload) (n : Machine) :
    Prop := ∃ value, Comes functions here e m value n ∧ outcome = value.map Value.payload

lemma Comes.unique {outcome outcome' : Except Fault Value} (h : Comes functions here e m outcome n)
    (h' : Comes functions here e m outcome' n') : outcome' = outcome ∧ n' = n := by
  obtain ⟨fuel, ran⟩ := h
  obtain ⟨fuel', ran'⟩ := h'
  have more := expr_of_le functions (Nat.le_max_left fuel fuel') ran
  have more' := expr_of_le functions (Nat.le_max_right fuel fuel') ran'
  exact Prod.ext_iff.mp (Option.some.inj (more'.symm.trans more))

lemma withoutText_eq_some {x : Eval Value} {outcome : Except Fault Payload} :
    withoutText x m = some (outcome, n) ↔
      ∃ value, x m = some (value, n) ∧ outcome = value.map Value.payload := by
  rw [withoutText, bind_apply]
  rcases x m with _ | ⟨fault | value, l⟩
  · simp
  all_goals
    constructor
    · rintro ⟨⟩
      exact ⟨_, rfl, rfl⟩
    · rintro ⟨_, ⟨⟩, rfl⟩
      rfl

/-- An expression may be given more fuel when it is asked what it shows. -/
lemma shows_iff (more : Nat) {outcome : Except Fault Payload} :
    Shows functions here e m outcome n ↔
      ∃ fuel, withoutText (expr functions (fuel + more) here e) m = some (outcome, n) := by
  constructor
  · rintro ⟨value, ⟨fuel, ran⟩, shown⟩
    have ran' := expr_of_le functions (Nat.le_add_right fuel more) ran
    exact ⟨fuel, withoutText_eq_some.mpr ⟨value, ran', shown⟩⟩
  · rintro ⟨fuel, ran⟩
    obtain ⟨value, ran, shown⟩ := withoutText_eq_some.mp ran
    exact ⟨value, ⟨_, ran⟩, shown⟩

/-- **The connectives are dual, effects included**, and they do not evaluate what they do not need.
In every phase and from every machine, `!(a && b)` comes to the same as `!a || !b`, and `!(a || b)`
to the same as `!a && !b`: to no end at all, or to the same truth value or fault, in the same
machine.  The machine has the lines that are written, the trace, the frames and the values of
variables, the rest of the input and the line.  If `a` comes to a truth value that decides, the
connective comes to that very value in the machine in which `a` ends, whatever `b` is, and to
nothing else. -/
theorem connectives_are_dual :
    (∀ (op : Connective) (a b : Expr) (pairs : Nat) (here : Cursor) (m : Machine)
      (outcome : Except Fault Payload) (n : Machine),
      Shows functions here ((a.connected op b).parenthesized pairs).negated m outcome n ↔
        Shows functions here (a.negated.connected op.dual b.negated) m outcome n) ∧
    ∀ (op : Connective) (a : Expr) (here : Cursor) (m n : Machine) (value : Value) (l : Bool),
      Comes functions here a m (.ok value) n → value.payload = .boolean l →
      op.decidedBy l = true → ∀ b outcome n',
        Comes functions here (a.connected op b) m outcome n' ↔ outcome = .ok value ∧ n' = n := by
  constructor
  · intro op a b pairs here m outcome n
    rw [shows_iff functions (2 + 2 * pairs + 2), shows_iff functions (2 + 2)]
    refine exists_congr fun fuel => ?_
    simp only [← Nat.add_assoc]
    rw [withoutText_dual]
  · intro op a here m n value l comes holds decides b outcome n'
    have short : Comes functions here (a.connected op b) m (.ok value) n := by
      obtain ⟨fuel, ran⟩ := comes
      refine ⟨fuel + 2, ?_⟩
      rw [expr_connected, bind_of_ok ran, Value.expectBool_eq_ok.mpr holds, ofExcept_ok, pure_bind,
        if_pos decides, pure_apply]
    constructor
    · exact fun comes' => short.unique functions comes'
    · rintro ⟨rfl, rfl⟩
      exact short

/-- The call of a function that is not declared stops with a fault, but not behind `false &&`. -/
theorem connectives_are_dual_undeclared :
    ∃ (b : Expr) (m n : Machine) (fault : Fault),
      Comes (fun _ => none) (.top .live) b m (.error fault) n ∧
        ∀ outcome n', Comes (fun _ => none) (.top .live)
            ((Expr.boolean false .unknown).connected .and b) m outcome n' ↔
          outcome = .ok (.boolean false) ∧ n' = m := by
  let b : Expr := .call ⟨⟨"f", .unknown⟩, [], .unknown⟩ .unknown
  have fails : Comes (fun _ => none) (.top .live) b default
      (.error (.undeclaredFunction "f")) default := ⟨3, rfl⟩
  have left : Comes (fun _ => none) (.top .live) (.boolean false .unknown) default
      (.ok (.boolean false)) default := ⟨2, rfl⟩
  exact ⟨b, default, default, _, fails, (connectives_are_dual fun _ => none).2 .and _ _ _ _ _
    false left rfl rfl b⟩

end Eval

end RobotScribe
