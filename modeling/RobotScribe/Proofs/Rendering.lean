/-
# The texts of expressions

An expression is written as it stands in the program, up to a few points: a call is written
without its arguments, a sensor as the instruction that reads it, and a connective as its left
operand alone where that decides it.  `Renders` says which texts an expression can be written
as.  Whatever the phase and the state, a value that an expression is evaluated to carries one
of these texts.
-/
import Mathlib.Data.List.Forall2
import RobotScribe.Proofs.Computation

namespace RobotScribe

/-! ## Texts -/

mutual

/-- The texts that an expression can be written as. -/
inductive Renders : Expr → String → Prop where
  | integer (n : Int64) (span : Span) : Renders (.integer n span) (toString n.toInt)
  | boolean (b : Bool) (span : Span) : Renders (.boolean b span) (Payload.showBool b)
  | string (s : String) (span : Span) : Renders (.string s span) (Text.quote s)
  | color (c : Color) (span : Span) : Renders (.color c span) c.text
  | var (name : String) (span : Span) : Renders (.var name span) name
  | element (array : Ident) {index : Expr} (span : Span) {text : String}
      (inner : Renders index text) :
      Renders (.element array index span) (Text.elementForm array.name text)
  | call (site : Call) (span : Span) : Renders (.call site span) (Text.callForm site.name.name)
  | sense {sensor : Sensor} (span : Span) {text : String} (reads : Reads sensor text) :
      Renders (.sense sensor span) text
  | binary {left right : Expr} (op : BinOp) (span : Span) {l r : String}
      (lhs : Renders left l) (rhs : Renders right r) :
      Renders (.binary left op right span) (Text.binaryForm l op.text r)
  /-- A connective that its left operand decides. -/
  | decided {left : Expr} (op : Connective) (right : Expr) (span : Span) {l : String}
      (lhs : Renders left l) : Renders (.binary left (.logical op) right span) l
  | unary (op : UnaryOp) {operand : Expr} (span : Span) {text : String}
      (inner : Renders operand text) :
      Renders (.unary op operand span) (Text.unaryForm op.text text)
  | paren {inner : Expr} (span : Span) {text : String} (within : Renders inner text) :
      Renders (.paren inner span) (Text.parenForm text)

/-- The texts of the instruction that reads a sensor. -/
inductive Reads : Sensor → String → Prop where
  | feel : Reads .feel "rFeel()"
  | infrared : Reads .infrared "rSense()"
  | bumper : Reads .bumper "rBumper()"
  | compass : Reads .compass "rCompass()"
  | beacon (color : Color) : Reads (.beacon color) ("rBeacon(" ++ color.text ++ ")")
  | look {direction : Expr} {text : String} (inner : Renders direction text) :
      Reads (.look direction) ("rLook(" ++ text ++ ")")

end

/-! ## What operators write -/

namespace Value

variable {left right operand value : Value}

lemma bind_eq_ok {α β : Type} {x : Except Fault α} {f : α → Except Fault β} {b : β}
    (h : (x >>= f) = .ok b) : ∃ a, x = .ok a ∧ f a = .ok b := by
  cases x with
  | error fault => cases h
  | ok a => exact ⟨a, rfl, h⟩

lemma text_arithmetic {op : ArithOp} (h : left.arithmetic op right = .ok value) :
    value.text = Text.binaryForm left.text op.text right.text := by
  unfold arithmetic at h
  obtain ⟨a, -, h⟩ := bind_eq_ok h
  obtain ⟨b, -, h⟩ := bind_eq_ok h
  obtain ⟨n, -, h⟩ := bind_eq_ok h
  cases h
  rfl

lemma text_relational {op : Relation} (h : left.relational op right = .ok value) :
    value.text = Text.binaryForm left.text op.text right.text := by
  unfold relational at h
  by_cases kinds : left.kind = right.kind
  · rw [if_neg (not_not_intro kinds)] at h
    obtain ⟨holds, -, h⟩ := bind_eq_ok h
    cases h
    rfl
  · rw [if_pos kinds] at h
    cases h

lemma text_bitwise {op : BitOp} (h : left.bitwise op right = .ok value) :
    value.text = Text.binaryForm left.text op.text right.text := by
  unfold bitwise at h
  dsimp only at h
  split at h
  · cases h
    rfl
  · cases h
    rfl
  · cases h
  · cases h
  · cases h

lemma text_unary {op : UnaryOp} (h : operand.unary op = .ok value) :
    value.text = Text.unaryForm op.text operand.text := by
  unfold unary at h
  cases op with
  | plus =>
    obtain ⟨payload, -, h⟩ := bind_eq_ok h
    cases h
    rfl
  | neg =>
    obtain ⟨payload, -, h⟩ := bind_eq_ok h
    cases h
    rfl
  | not =>
    obtain ⟨payload, -, h⟩ := bind_eq_ok h
    cases h
    rfl

end Value

namespace Eval

/-! ## What computations yield -/

/-- Every result of a computation has a property. -/
def Yields {α : Type} (P : α → Prop) (x : Eval α) : Prop :=
  ∀ ⦃m a n⦄, x m = some (.ok a, n) → P a

namespace Yields

variable {α β : Type} {P : α → Prop} {Q : β → Prop}

lemma outOfFuel : Yields P outOfFuel := by
  intro m a n ran
  cases ran

lemma throw (fault : Fault) : Yields P (throw fault) := by
  intro m a n ran
  cases ran

lemma pure {a : α} (h : P a) : Yields P (pure a) := by
  intro m b n ran
  cases ran
  exact h

lemma ofExcept {outcome : Except Fault α} (h : ∀ a, outcome = .ok a → P a) :
    Yields P (ofExcept outcome) := by
  intro m a n ran
  obtain ⟨done, -⟩ := Prod.mk.inj (Option.some.inj ran)
  exact h a done

/-- The outcome of a test, or its stand-in in dry code. -/
lemma orStandIn {phase : Phase} {fallback : α} {outcome : Except Fault α} (stands : P fallback)
    (h : ∀ a, outcome = .ok a → P a) :
    Yields P (Eval.ofExcept (orStandIn phase fallback outcome)) := by
  refine ofExcept fun a done => ?_
  cases outcome with
  | ok b => exact h a done
  | error fault =>
    unfold Eval.orStandIn at done
    dsimp only at done
    split at done
    · cases done
      exact stands
    · cases done

lemma bind {x : Eval α} {f : α → Eval β} (first : Yields P x)
    (second : ∀ a, P a → Yields Q (f a)) : Yields Q (x >>= f) := by
  intro m b n ran
  obtain ⟨a, l, ran, ran'⟩ := bind_eq_ok.mp ran
  exact second a (first ran) ran'

/-- A bind of which the first result does not matter. -/
lemma after {x : Eval α} {f : α → Eval β} (second : ∀ a, Yields Q (f a)) :
    Yields Q (x >>= f) := by
  intro m b n ran
  obtain ⟨a, l, -, ran'⟩ := bind_eq_ok.mp ran
  exact second a ran'

end Yields

/-! ## The induction -/

variable (functions : String → Option Function)

/-- A call is written without its arguments, whatever it comes to. -/
lemma text_call (fuel : Nat) (here : Cursor) (site : Call) :
    Yields (fun value => value.text = Text.callForm site.name.name)
      (call functions fuel here site) := by
  cases fuel with
  | zero => exact .outOfFuel
  | succ fuel =>
    cases declared : functions site.name.name with
    | none =>
      rw [call_of_undeclared functions declared]
      exact .throw _
    | some function =>
      rw [call_of_declared functions declared]
      split
      · exact .throw _
      · refine .after fun slots => .after fun _ => ?_
        split
        · exact .after fun result => .pure rfl
        · exact .pure rfl

/-- The evaluator yields texts of the expressions it evaluates, with so much fuel. -/
structure Rendered (fuel : Nat) : Prop where
  expr : ∀ here e, Yields (fun value => Renders e value.text) (expr functions fuel here e)
  form : ∀ here e, Yields (fun value => Renders e value.text) (form functions fuel here e)
  sense : ∀ here sensor,
    Yields (fun value => Reads sensor value.text) (sense functions fuel here sensor)
  numbers : ∀ here args, Yields (fun texts => List.Forall₂ Renders args texts)
    (numbers functions fuel here args)

namespace Rendered

variable {functions} {fuel : Nat} (ih : Rendered functions fuel)
include ih

lemma expr_succ (here : Cursor) (e : Expr) :
    Yields (fun value => Renders e value.text) (Eval.expr functions (fuel + 1) here e) := by
  rw [Eval.expr]
  refine .after fun outer => .after fun _ => ?_
  exact .bind (ih.form here e) fun value text => .after fun _ => .pure text

lemma sense_succ (here : Cursor) (sensor : Sensor) :
    Yields (fun value => Reads sensor value.text)
      (Eval.sense functions (fuel + 1) here sensor) := by
  cases sensor with
  | feel => exact .pure .feel
  | infrared => exact .pure .infrared
  | bumper => exact .pure .bumper
  | compass => exact .pure .compass
  | beacon color => exact .pure (.beacon color)
  | look direction =>
    rw [Eval.sense]
    exact .bind (ih.expr here direction) fun _ inner => .after fun _ => .pure (.look inner)

lemma form_succ (here : Cursor) (e : Expr) :
    Yields (fun value => Renders e value.text) (Eval.form functions (fuel + 1) here e) := by
  cases e with
  | integer n span => exact .pure (.integer n span)
  | boolean b span => exact .pure (.boolean b span)
  | string s span => exact .pure (.string s span)
  | color c span => exact .pure (.color c span)
  | var name span =>
    rw [Eval.form]
    exact .after fun _ => .after fun _ => .pure (.var name span)
  | element array index span =>
    rw [Eval.form]
    refine .bind (ih.expr here index) fun value inner => .after fun _ => .after fun _ => ?_
    exact .after fun _ => .after fun _ => .pure (.element array span inner)
  | call site span =>
    rw [Eval.form]
    refine .bind (text_call functions fuel here site) fun value text => ?_
    have renders : Renders (.call site span) value.text := by
      rw [text]
      exact .call site span
    split
    · exact .bind (P := fun _ => True) (.throw _) fun _ _ => .pure renders
    · exact .pure renders
  | sense sensor span =>
    rw [Eval.form]
    intro m value n ran
    exact .sense span (ih.sense here sensor ran)
  | binary left op right span =>
    cases op with
    | logical op =>
      rw [Eval.form]
      refine .bind (ih.expr here left) fun lhs l => .after fun decided => ?_
      split
      · exact .pure (.decided op right span l)
      · refine .bind (ih.expr here right) fun rhs r => .after fun _ => .pure ?_
        exact .binary (.logical op) span l r
    | arithmetic op =>
      rw [Eval.form]
      refine .bind (ih.expr here left) fun lhs l => .bind (ih.expr here right) fun rhs r => ?_
      have renders : Renders (.binary left (.arithmetic op) right span)
          (Text.binaryForm lhs.text op.text rhs.text) := .binary (.arithmetic op) span l r
      refine .orStandIn renders fun value done => ?_
      rw [Value.text_arithmetic done]
      exact renders
    | relational op =>
      rw [Eval.form]
      refine .bind (ih.expr here left) fun lhs l => .bind (ih.expr here right) fun rhs r => ?_
      refine .ofExcept fun value done => ?_
      rw [Value.text_relational done]
      exact .binary (.relational op) span l r
    | bitwise op =>
      rw [Eval.form]
      refine .bind (ih.expr here left) fun lhs l => .bind (ih.expr here right) fun rhs r => ?_
      refine .ofExcept fun value done => ?_
      rw [Value.text_bitwise done]
      exact .binary (.bitwise op) span l r
  | unary op operand span =>
    rw [Eval.form]
    refine .bind (ih.expr here operand) fun value inner => .ofExcept fun result done => ?_
    rw [Value.text_unary done]
    exact .unary op span inner
  | paren inner span =>
    rw [Eval.form]
    exact .bind (ih.expr here inner) fun value within => .pure (.paren span within)

lemma numbers_succ (here : Cursor) (args : List Expr) :
    Yields (fun texts => List.Forall₂ Renders args texts)
      (Eval.numbers functions (fuel + 1) here args) := by
  cases args with
  | nil => exact .pure .nil
  | cons arg args =>
    rw [Eval.numbers]
    refine .bind (ih.expr here arg) fun value text => .after fun _ => ?_
    exact .bind (ih.numbers here args) fun texts rest => .pure (.cons text rest)

end Rendered

/-- **A value carries a text of the expression that it was evaluated from**, in every phase and
every state. -/
theorem rendered (fuel : Nat) : Rendered functions fuel := by
  induction fuel with
  | zero =>
    exact ⟨fun _ _ => .outOfFuel, fun _ _ => .outOfFuel, fun _ _ => .outOfFuel,
      fun _ _ => .outOfFuel⟩
  | succ fuel ih => exact ⟨ih.expr_succ, ih.form_succ, ih.sense_succ, ih.numbers_succ⟩

end Eval

end RobotScribe
