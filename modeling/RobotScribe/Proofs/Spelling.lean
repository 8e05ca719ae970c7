/-
# The text of an evaluated expression

The value of an expression carries a text, and this text is the expression itself, written by its
syntax.  A call is written without its arguments, a sensor as the instruction that reads it, and an
operator between or before the texts of its operands.  There is one point where the syntax does not
say everything: a connective is written as its left operand alone exactly if the value of that
operand decides it.  So the text is that of the expression as it is evaluated from a machine
(`Spells`), and there is no other one.

What is stored has a text, too, but it is never seen again: the texts in the store have no part in
how an expression is written.
-/
import RobotScribe.Proofs.Connectives
import RobotScribe.Proofs.Rendering
import RobotScribe.Proofs.Serialization
import RobotScribe.Proofs.StoredTexts

namespace RobotScribe

open Eval

/-- Whether the value of its left operand alone decides what an operator comes to. -/
def BinOp.decidedBy (op : BinOp) (left : Value) : Bool :=
  match op, left.payload with
  | .logical op, .boolean l => op.decidedBy l
  | _, _ => false

lemma BinOp.decidedBy_logical (op : Connective) {left : Value} {l : Bool}
    (holds : left.payload = .boolean l) :
    (BinOp.logical op).decidedBy left = op.decidedBy l := by
  simp only [BinOp.decidedBy, holds]

/-- The machine at the line where a node starts, if that is known. -/
def Machine.atSpan (m : Machine) (span : Span) : Machine :=
  if span.isKnown then { m with line := span.startLine } else m

section

variable (functions : String → Option Function) (here : Cursor)

/-- How an expression is written that is evaluated from a machine. -/
inductive Spells : Machine → Expr → String → Prop where
  | integer (m : Machine) (n : Int64) (span : Span) :
    Spells m (.integer n span) (toString n.toInt)
  | boolean (m : Machine) (b : Bool) (span : Span) :
    Spells m (.boolean b span) (if b then "true" else "false")
  | string (m : Machine) (s : String) (span : Span) : Spells m (.string s span) (Text.quote s)
  | color (m : Machine) (c : Color) (span : Span) : Spells m (.color c span) c.text
  | var (m : Machine) (name : String) (span : Span) : Spells m (.var name span) name
  | element {m : Machine} (array : Ident) {index : Expr} (span : Span) {text : String}
    (inner : Spells (m.atSpan span) index text) :
    Spells m (.element array index span) (array.name ++ "[" ++ text ++ "]")
  | call (m : Machine) (site : Call) (span : Span) :
    Spells m (.call site span) (site.name.name ++ "()")
  | feel (m : Machine) (span : Span) : Spells m (.sense .feel span) "rFeel()"
  | infrared (m : Machine) (span : Span) : Spells m (.sense .infrared span) "rSense()"
  | bumper (m : Machine) (span : Span) : Spells m (.sense .bumper span) "rBumper()"
  | compass (m : Machine) (span : Span) : Spells m (.sense .compass span) "rCompass()"
  | beacon (m : Machine) (color : Color) (span : Span) :
    Spells m (.sense (.beacon color) span) ("rBeacon(" ++ color.text ++ ")")
  | look {m : Machine} {direction : Expr} (span : Span) {text : String}
    (inner : Spells (m.atSpan span) direction text) :
    Spells m (.sense (.look direction) span) ("rLook(" ++ text ++ ")")
  /-- The value of the left operand decides. -/
  | leftAlone {m n : Machine} {left : Expr} (op : BinOp) (right : Expr) (span : Span)
    {l : String} {lhs : Value} (first : Spells (m.atSpan span) left l)
    (comes : Comes functions here left (m.atSpan span) (.ok lhs) n)
    (decides : op.decidedBy lhs = true) : Spells m (.binary left op right span) l
  | binary {m n : Machine} {left : Expr} (op : BinOp) {right : Expr} (span : Span)
    {l r : String} {lhs : Value} (first : Spells (m.atSpan span) left l)
    (comes : Comes functions here left (m.atSpan span) (.ok lhs) n)
    (undecided : op.decidedBy lhs = false) (second : Spells n right r) :
    Spells m (.binary left op right span) (l ++ " " ++ op.text ++ " " ++ r)
  | unary {m : Machine} (op : UnaryOp) {operand : Expr} (span : Span) {text : String}
    (inner : Spells (m.atSpan span) operand text) :
    Spells m (.unary op operand span) (op.text ++ text)
  | paren {m : Machine} {inner : Expr} (span : Span) {text : String}
    (within : Spells (m.atSpan span) inner text) : Spells m (.paren inner span) ("(" ++ text ++ ")")

end

variable {functions : String → Option Function} {here : Cursor} {m n : Machine} {e : Expr}
  {text text' : String}

/-- An expression that is evaluated from a machine is written in one way only, since its left
operands have one value each. -/
lemma Spells.unique (h : Spells functions here m e text) (h' : Spells functions here m e text') :
    text' = text := by
  induction h generalizing text' with
  | integer | boolean | string | color | var | call | feel | infrared | bumper | compass | beacon =>
    cases h'
    rfl
  | element array span _ ih =>
    cases h' with
    | element _ _ inner => rw [ih inner]
  | look span _ ih =>
    cases h' with
    | look _ inner => rw [ih inner]
  | leftAlone op right span _ comes decides ih =>
    cases h' with
    | leftAlone _ _ _ first _ _ => exact ih first
    | binary _ _ _ comes' undecided _ =>
      obtain ⟨same, -⟩ := comes.unique functions comes'
      cases same
      rw [decides] at undecided
      cases undecided
  | binary op span _ comes undecided _ ih ih' =>
    cases h' with
    | leftAlone _ _ _ _ comes' decides =>
      obtain ⟨same, -⟩ := comes.unique functions comes'
      cases same
      rw [undecided] at decides
      cases decides
    | binary _ _ first comes' _ second =>
      obtain ⟨-, rfl⟩ := comes.unique functions comes'
      rw [ih first, ih' second]
  | unary op span _ ih =>
    cases h' with
    | unary _ _ inner => rw [ih inner]
  | paren span _ ih =>
    cases h' with
    | paren _ within => rw [ih within]

/-- Without connectives, an expression is written in one way from every machine. -/
lemma Spells.eq_text (h : Spells functions here m e text) (free : e.connectiveFree = true) :
    text = e.text := by
  induction h with
  | integer | boolean | string | color | var | feel | infrared | bumper | compass | beacon => rfl
  | call m site span =>
    cases site
    rfl
  | element array span _ ih =>
    rw [ih free]
    rfl
  | look span _ ih =>
    rw [ih free]
    rfl
  | leftAlone op right span _ _ decides =>
    cases op with
    | logical op => cases free
    | arithmetic op | relational op | bitwise op => cases decides
  | binary op span _ _ _ _ ih ih' =>
    cases op with
    | logical op => cases free
    | arithmetic op | relational op | bitwise op =>
      obtain ⟨left, right⟩ := (Bool.and_eq_true _ _).mp free
      rw [ih left, ih' right]
      rfl
  | unary op span _ ih =>
    rw [ih free]
    rfl
  | paren span _ ih =>
    rw [ih free]
    rfl

/-! ## Evaluations -/

namespace Eval

lemma enterSpan_apply (span : Span) : enterSpan span m = some (.ok (), m.atSpan span) := by
  unfold enterSpan Machine.atSpan
  split <;> rfl

/-- An expression that comes to a value has been evaluated at its line. -/
lemma exists_form {fuel : Nat} {value : Value}
    (ran : expr functions fuel here e m = some (.ok value, n)) :
    ∃ less n', fuel = less + 1 ∧
      form functions less here e (m.atSpan e.span) = some (.ok value, n') := by
  cases fuel with
  | zero => cases ran
  | succ less =>
    rw [expr_succ, atSpan, currentLine_bind, bind_of_ok (enterSpan_apply e.span)] at ran
    obtain ⟨value', n', formed, left⟩ := bind_eq_ok.mp ran
    cases left
    exact ⟨less, n', rfl, formed⟩

variable (functions here)

/-- With so much fuel, the text of a value is the way the expression is written that comes to it. -/
def Spelled (fuel : Nat) : Prop := ∀ ⦃e m n value⦄,
  expr functions fuel here e m = some (.ok value, n) → Spells functions here m e value.text

variable {functions here}

namespace Spelled

variable {fuel : Nat} {value : Value} {left right : Expr} {span : Span}

/-- Both operands are evaluated, and the operator stands between their texts. -/
lemma operator (ih : Spelled functions here fuel) {op : BinOp}
    (needed : ∀ lhs, op.decidedBy lhs = false) {f : Value → Value → Eval Value}
    (texts : ∀ lhs rhs, Yields (·.text = Text.binaryForm lhs.text op.text rhs.text) (f lhs rhs))
    (ran : (do
      let lhs ← expr functions fuel here left
      let rhs ← expr functions fuel here right
      f lhs rhs) (m.atSpan span) = some (.ok value, n)) :
    Spells functions here m (.binary left op right span) value.text := by
  obtain ⟨lhs, l, first, ran⟩ := bind_eq_ok.mp ran
  obtain ⟨rhs, k, second, ran⟩ := bind_eq_ok.mp ran
  rw [texts lhs rhs ran]
  exact .binary op span (ih first) ⟨fuel, first⟩ (needed lhs) (ih second)

/-- The right operand of a connective is evaluated unless the left one decides. -/
lemma connective (ih : Spelled functions here fuel) (op : Connective)
    (ran : form functions (fuel + 1) here (.binary left (.logical op) right span)
      (m.atSpan span) = some (.ok value, n)) :
    Spells functions here m (.binary left (.logical op) right span) value.text := by
  rw [form] at ran
  obtain ⟨lhs, l, first, ran⟩ := bind_eq_ok.mp ran
  obtain ⟨b, l', holds, ran⟩ := bind_eq_ok.mp ran
  rw [ofExcept_apply] at holds
  obtain ⟨bool, rfl⟩ := Prod.mk.inj (Option.some.inj holds)
  have decided := BinOp.decidedBy_logical op (Value.expectBool_eq_ok.mp bool)
  cases decides : op.decidedBy b with
  | true =>
    rw [decides, if_pos rfl] at ran
    cases ran
    exact .leftAlone (.logical op) right span (ih first) ⟨fuel, first⟩ (decided.trans decides)
  | false =>
    rw [decides, if_neg Bool.false_ne_true] at ran
    obtain ⟨rhs, k, second, ran⟩ := bind_eq_ok.mp ran
    obtain ⟨r, k', -, ran⟩ := bind_eq_ok.mp ran
    cases ran
    exact .binary (.logical op) span (ih first) ⟨fuel, first⟩ (decided.trans decides) (ih second)

/-- Each form is written with the texts of its parts. -/
lemma form_succ (before : ∀ less ≤ fuel, Spelled functions here less)
    (ran : form functions (fuel + 1) here e (m.atSpan e.span) = some (.ok value, n)) :
    Spells functions here m e value.text := by
  have ih : Spelled functions here fuel := before fuel (Nat.le_refl fuel)
  cases e with
  | integer number span =>
    cases ran
    exact .integer m number span
  | boolean b span =>
    cases ran
    exact .boolean m b span
  | string s span =>
    cases ran
    exact .string m s span
  | color c span =>
    cases ran
    exact .color m c span
  | var name span =>
    rw [form] at ran
    obtain ⟨found, l, -, ran⟩ := bind_eq_ok.mp ran
    obtain ⟨stored, l', -, ran⟩ := bind_eq_ok.mp ran
    cases ran
    exact .var m name span
  | element array index span =>
    rw [form] at ran
    obtain ⟨position, l, first, ran⟩ := bind_eq_ok.mp ran
    have text : Yields (·.text = Text.elementForm array.name position.text) (do
        let i ← ofExcept position.expectInt
        let found ← lookup array.name
        let items ← ofExcept (orStandIn here.phase (.standIn .arrayInt "") found)
        let element ← ofExcept
          (orStandIn here.phase (.standIn items.elementKind "") (items.element i))
        return element.withText (Text.elementForm array.name position.text)) :=
      .after fun _ => .after fun _ => .after fun _ => .after fun _ => .pure rfl
    rw [text ran]
    exact .element array span (ih first)
  | call site span =>
    rw [form] at ran
    obtain ⟨result, l, called, ran⟩ := bind_eq_ok.mp ran
    have text := text_call functions fuel here site called
    split at ran
    · cases ran
    · cases ran
      rw [text]
      exact .call m site span
  | sense sensor span =>
    rw [form] at ran
    cases fuel with
    | zero => cases ran
    | succ fuel =>
      cases sensor with
      | feel =>
        cases ran
        exact .feel m span
      | infrared =>
        cases ran
        exact .infrared m span
      | bumper =>
        cases ran
        exact .bumper m span
      | compass =>
        cases ran
        exact .compass m span
      | beacon color =>
        cases ran
        exact .beacon m color span
      | look direction =>
        rw [sense] at ran
        obtain ⟨facing, l, first, ran⟩ := bind_eq_ok.mp ran
        obtain ⟨number, l', -, ran⟩ := bind_eq_ok.mp ran
        cases ran
        exact .look span (before fuel (Nat.le_succ fuel) first)
  | binary left op right span =>
    cases op with
    | logical op => exact ih.connective op ran
    | arithmetic op =>
      rw [form] at ran
      exact ih.operator (fun _ => rfl)
        (fun lhs rhs => .orStandIn rfl fun value done => Value.text_arithmetic done) ran
    | relational op =>
      rw [form] at ran
      exact ih.operator (fun _ => rfl)
        (fun lhs rhs => .ofExcept fun value done => Value.text_relational done) ran
    | bitwise op =>
      rw [form] at ran
      exact ih.operator (fun _ => rfl)
        (fun lhs rhs => .ofExcept fun value done => Value.text_bitwise done) ran
  | unary op operand span =>
    rw [form] at ran
    obtain ⟨inner, l, first, ran⟩ := bind_eq_ok.mp ran
    rw [ofExcept_apply] at ran
    rw [Value.text_unary (Prod.mk.inj (Option.some.inj ran)).1]
    exact .unary op span (ih first)
  | paren inner span =>
    rw [form] at ran
    obtain ⟨within, l, first, ran⟩ := bind_eq_ok.mp ran
    cases ran
    exact .paren span (ih first)

end Spelled

/-- **The text of a value is how the expression is written** from the machine where its evaluation
starts. -/
theorem spelled (functions : String → Option Function) (here : Cursor) (fuel : Nat) :
    Spelled functions here fuel := by
  induction fuel using Nat.strongRecOn with
  | ind fuel before =>
    intro e m n value ran
    obtain ⟨less, n', rfl, formed⟩ := exists_form ran
    cases less with
    | zero => cases formed
    | succ less =>
      exact Spelled.form_succ (fun less' le => before less' (by omega)) formed

end Eval

open Eval

/-- **The text of an evaluated expression is its syntax.**  Whenever an expression comes to a value,
in any phase and from any machine, the text of the value is the one that the expression is written
as from that machine: with the names of calls, the instructions of sensors, and a connective as its
left operand alone exactly where the value of that decides it.  Without connectives, this is one
text for all phases and all machines.  The texts in the store play no part: from a machine that is
the same but for these, the expression comes to the same value, with the same text, and to a machine
that is the same but for these. -/
theorem text_spells_expression {value : Value} (comes : Comes functions here e m (.ok value) n) :
    (∀ text, Spells functions here m e text ↔ text = value.text) ∧
    (e.connectiveFree = true → value.text = e.text) ∧
    ∀ m' : Machine, m'.textless = m.textless →
      (∃ n', Comes functions here e m' (.ok value) n' ∧ n'.textless = n.textless) ∧
      ∀ value' n', Comes functions here e m' (.ok value') n' → value'.text = value.text := by
  have ⟨fuel, ran⟩ := comes
  have spells : Spells functions here m e value.text := spelled functions here fuel ran
  refine ⟨fun text => ?_, fun free => spells.eq_text free, fun m' same => ?_⟩
  · constructor
    · exact fun spells' => spells.unique spells'
    · rintro rfl
      exact spells
  · obtain ⟨n', ran', machines⟩ := (IgnoresTexts.expr functions fuel here e).exists_eq same ran
    refine ⟨⟨n', ⟨fuel, ran'⟩, machines⟩, fun value' l comes' => ?_⟩
    obtain ⟨values, -⟩ := Comes.unique functions ⟨fuel, ran'⟩ comes'
    rw [Except.ok.inj values]

/-- `-(x / 0) < xs[x + 1]` -/
def faulty : Expr :=
  .binary
    (.unary .neg (.paren (.binary (.var "x" .unknown) (.arithmetic .div) (.integer 0 .unknown)
      .unknown) .unknown) .unknown)
    (.relational .less)
    (.element ⟨"xs", .unknown⟩ (.binary (.var "x" .unknown) (.arithmetic .add) (.integer 1 .unknown)
      .unknown) .unknown)
    .unknown

/-- `(!b || g(x)) && -(x / 0) < xs[x + 1]` -/
def guarded : Expr :=
  .binary
    (.paren (.binary (.unary .not (.var "b" .unknown) .unknown) (.logical .or)
      (.call ⟨⟨"g", .unknown⟩, [.var "x" .unknown], .unknown⟩ .unknown) .unknown) .unknown)
    (.logical .and) faulty .unknown

/-- A machine whose variables have been given texts that have nothing to do with their names. -/
def stale : Machine where
  memory := ⟨[⟨"main", 0, [("x", ⟨0⟩), ("b", ⟨1⟩), ("xs", ⟨2⟩)]⟩],
    ⟨#[⟨.integer 3, "y + 2"⟩, ⟨.boolean false, "c && d"⟩, ⟨.integers #[7], "[]"⟩]⟩⟩
  transcript := .empty
  input := ⟨[], []⟩
  trace := none
  line := 0

/-- In dry code, the first connective is decided, so the function is not looked for, and the second
one is not.  Its right operand divides by zero and reads beyond the end of the array. -/
theorem text_spells_expression_guarded :
    (∃ value n, Comes (fun _ => none) (.top .dry) guarded stale (.ok value) n ∧
      value.text = "(!b) && -(x / 0) < xs[x + 1]" ∧
      Spells (fun _ => none) (.top .dry) stale guarded value.text ∧
      ∃ n', Comes (fun _ => none) (.top .dry) guarded stale.textless (.ok value) n' ∧
        n'.textless = n.textless) ∧
    ∃ value n, Comes (fun _ => none) (.top .dry) faulty stale (.ok value) n ∧
      value.text = faulty.text := by
  have ends : (expr (fun _ => none) 12 (.top .dry) guarded stale).map
      (·.1.toOption.map Value.text) = some (some "(!b) && -(x / 0) < xs[x + 1]") := by
    decide +kernel
  have ends' : (expr (fun _ => none) 12 (.top .dry) faulty stale).map (·.1.isOk) = some true := by
    decide +kernel
  constructor
  · obtain ⟨⟨_ | value, n⟩, ran, text⟩ := Option.map_eq_some_iff.mp ends
    · cases text
    · have comes : Comes (fun _ => none) (.top .dry) guarded stale (.ok value) n := ⟨12, ran⟩
      obtain ⟨spells, -, texts⟩ := text_spells_expression comes
      obtain ⟨comes', -⟩ := texts stale.textless (by simp [Machine.textless])
      exact ⟨value, n, comes, Option.some.inj text, (spells value.text).mpr rfl, comes'⟩
  · obtain ⟨⟨_ | value, n⟩, ran, ok⟩ := Option.map_eq_some_iff.mp ends'
    · cases ok
    · have comes : Comes (fun _ => none) (.top .dry) faulty stale (.ok value) n := ⟨12, ran⟩
      exact ⟨value, n, comes, (text_spells_expression comes).2.1 rfl⟩

end RobotScribe
