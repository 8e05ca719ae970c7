/-
# Integer arithmetic

Integers have 64 bits and a sign.  A sum, a difference, a product or a negation is the one integer
of this size that is congruent modulo 2 to the 64 to the exact result (`Wraps`).  A quotient is cut
toward zero; it wraps in one case only, and even then quotient and remainder make up the dividend
again (`Divided`).  An operator refuses its operands if one of them is no integer, and apart from
that only if it divides by zero (`Refuses`).

An operator of a program comes to what it comes to on the values of its operands.  So an expression
whose parts denote integers, and do nothing else, denotes what arithmetic says (`Denotes`).
-/
import RobotScribe.Proofs.Fuel
import Mathlib.Data.Int.ModEq

namespace RobotScribe

/-! ## Exact results -/

/-- An integer of 64 bits is congruent to an exact result, and no other one is. -/
def Wraps (exact : Int) (n : Int64) : Prop := ∀ k : Int64, k.toInt ≡ exact [ZMOD 2 ^ 64] ↔ k = n

/-- Cutting an integer down to 64 bits keeps it modulo 2 to the 64. -/
lemma wraps_ofInt (exact : Int) : Wraps exact (Int64.ofInt exact) := by
  intro k
  rw [eq_comm, Int64.ofInt_eq_iff_bmod_eq_toInt]
  constructor
  · intro same
    have residues : k.toInt % (2 ^ 64 : Nat) = exact % (2 ^ 64 : Nat) := same
    rw [← Int.emod_bmod, ← residues, Int.emod_bmod]
    exact (Int64.ofInt_eq_iff_bmod_eq_toInt _ _).mp k.ofInt_toInt
  · intro cut
    have residues : k.toInt % (2 ^ 64 : Nat) = exact % (2 ^ 64 : Nat) := by
      rw [← cut, Int.bmod_emod]
    exact residues

namespace ArithOp

variable {op : ArithOp} {a b : Int64}

/-- The exact result of an operator.  Quotients are cut toward zero. -/
def exact : ArithOp → Int → Int → Int
  | add, a, b => a + b
  | sub, a, b => a - b
  | mul, a, b => a * b
  | div, a, b => a.tdiv b
  | mod, a, b => a.tmod b

/-- The operators that have a divisor. -/
def Divides (op : ArithOp) : Prop := op = div ∨ op = mod

/-- Quotients and remainders are exact results, too. -/
lemma ofInt_tdiv (a b : Int64) : Int64.ofInt (a.toInt.tdiv b.toInt) = a / b := by
  rw [Int64.ofInt_tdiv a.minValue_le_toInt a.toInt_le b.minValue_le_toInt b.toInt_le,
    Int64.ofInt_toInt, Int64.ofInt_toInt]

lemma ofInt_tmod (a b : Int64) : Int64.ofInt (a.toInt.tmod b.toInt) = a % b := by
  rw [Int64.ofInt_tmod a.minValue_le_toInt a.toInt_le b.minValue_le_toInt b.toInt_le,
    Int64.ofInt_toInt, Int64.ofInt_toInt]

/-- Unless it divides by zero, an operator comes to the exact result, cut down to 64 bits. -/
lemma apply_eq_ok (allowed : ¬(op.Divides ∧ b = 0)) :
    op.apply a b = .ok (Int64.ofInt (op.exact a.toInt b.toInt)) := by
  have nonzero (divides : op.Divides) : b ≠ 0 := fun zero => allowed ⟨divides, zero⟩
  cases op with
  | add => simp [apply, exact, Int64.ofInt_add]
  | sub => simp [apply, exact, Int64.ofInt_sub]
  | mul => simp [apply, exact, Int64.ofInt_mul]
  | div => rw [apply, if_neg (nonzero (Or.inl rfl)), exact, ofInt_tdiv]
  | mod => rw [apply, if_neg (nonzero (Or.inr rfl)), exact, ofInt_tmod]

lemma apply_zero (divides : op.Divides) : op.apply a 0 = .error .divisionByZero := by
  rcases divides with rfl | rfl
  · rfl
  · rfl

end ArithOp

/-! ## Quotients and remainders -/

/-- What the quotient and the remainder of two integers have to be. -/
structure Divided (a b quotient remainder : Int64) : Prop where
  /-- The quotient is cut toward zero. -/
  cut : ¬(a = Int64.minValue ∧ b = -1) → quotient.toInt = a.toInt.tdiv b.toInt
  /-- The one quotient that does not fit wraps. -/
  wrapped : a = Int64.minValue → b = -1 → quotient = Int64.minValue
  smaller : remainder.toInt.natAbs < b.toInt.natAbs
  /-- A remainder has the sign of the dividend. -/
  sign : remainder = 0 ∨ remainder.toInt.sign = a.toInt.sign
  restored : quotient * b + remainder = a

lemma divided {a b : Int64} (nonzero : b ≠ 0) : Divided a b (a / b) (a % b) where
  cut fits := by
    by_cases least : a = Int64.minValue
    · exact Int64.toInt_div_of_ne_right a b fun minus => fits ⟨least, minus⟩
    · exact Int64.toInt_div_of_ne_left a b least
  wrapped := by
    rintro rfl rfl
    exact Int64.minValue_div_neg_one
  smaller := by
    have positive : b.toInt ≠ 0 := fun zero => nonzero (Int64.toInt_inj.mp zero)
    rw [Int64.toInt_mod, Int.natAbs_tmod]
    exact Nat.mod_lt _ (Int.natAbs_pos.mpr positive)
  sign := by
    rw [Int64.toInt_mod, Int.sign_tmod]
    by_cases divides : b.toInt ∣ a.toInt
    · have none : a.toInt.tmod b.toInt = 0 := Int.tmod_eq_zero_of_dvd divides
      exact Or.inl (Int64.toInt_inj.mp ((Int64.toInt_mod a b).trans none))
    · exact Or.inr (if_neg divides)
  restored := by
    calc a / b * b + a % b
        = Int64.ofInt (a.toInt.tdiv b.toInt * b.toInt + a.toInt.tmod b.toInt) := by
          rw [Int64.ofInt_add, Int64.ofInt_mul, ArithOp.ofInt_tdiv, ArithOp.ofInt_tmod,
            Int64.ofInt_toInt]
      _ = a := by rw [Int.tdiv_mul_add_tmod, Int64.ofInt_toInt]

/-! ## Operators on values -/

namespace Value

variable {left right operand : Value} {op : ArithOp} {a b : Int64} {fault : Fault}

lemma expectInt_eq_error :
    operand.expectInt = .error fault ↔
      operand.kind ≠ .integer ∧ fault = .typeMismatch "numerical" operand.kind := by
  obtain ⟨payload, text⟩ := operand
  cases payload <;> simp [expectInt, kind, Payload.kind, eq_comm]

/-- What the operators on integers come to. -/
lemma arithmetic_of_integers (op : ArithOp) (first : left.payload = .integer a)
    (second : right.payload = .integer b) :
    left.arithmetic op right = (op.apply a b).map fun n =>
      ⟨.integer n, Text.binaryForm left.text op.text right.text⟩ := by
  rw [arithmetic, expectInt_eq_ok.mpr first, expectInt_eq_ok.mpr second]
  rfl

/-- What a division of integers comes to, if the divisor is not zero. -/
lemma division_of_integers (first : left.payload = .integer a) (second : right.payload = .integer b)
    (nonzero : b ≠ 0) :
    left.arithmetic .div right =
        .ok ⟨.integer (a / b), Text.binaryForm left.text "/" right.text⟩ ∧
      left.arithmetic .mod right =
        .ok ⟨.integer (a % b), Text.binaryForm left.text "%" right.text⟩ := by
  rw [arithmetic_of_integers _ first second, arithmetic_of_integers _ first second,
    ArithOp.apply, ArithOp.apply, if_neg nonzero, if_neg nonzero]
  exact ⟨rfl, rfl⟩

/-- The faults of an operator on two values.  The kinds are looked at from left to right, and before
the divisor. -/
inductive Refuses (op : ArithOp) (left right : Value) : Fault → Prop where
  | left (unlike : left.kind ≠ .integer) :
      Refuses op left right (.typeMismatch "numerical" left.kind)
  | right (like : left.kind = .integer) (unlike : right.kind ≠ .integer) :
      Refuses op left right (.typeMismatch "numerical" right.kind)
  | zero (like : left.kind = .integer) (nothing : right.payload = .integer 0)
      (divides : op.Divides) : Refuses op left right .divisionByZero

lemma exists_integer (like : operand.kind = .integer) : ∃ n, operand.payload = .integer n := by
  obtain ⟨payload, text⟩ := operand
  cases payload with
  | integer n => exact ⟨n, rfl⟩
  | _ => cases like

lemma Refuses.arithmetic_eq (refuses : Refuses op left right fault) :
    left.arithmetic op right = .error fault := by
  cases refuses with
  | left unlike =>
    rw [arithmetic, expectInt_eq_error.mpr ⟨unlike, rfl⟩]
    rfl
  | right like unlike =>
    obtain ⟨a, first⟩ := exists_integer like
    rw [arithmetic, expectInt_eq_ok.mpr first, expectInt_eq_error.mpr ⟨unlike, rfl⟩]
    rfl
  | zero like nothing divides =>
    obtain ⟨a, first⟩ := exists_integer like
    rw [arithmetic_of_integers _ first nothing, ArithOp.apply_zero divides]
    rfl

/-- An operator refuses its operands, or it comes to a value. -/
lemma refuses_or_ok (op : ArithOp) (left right : Value) :
    (∃ fault, Refuses op left right fault) ∨ ∃ value, left.arithmetic op right = .ok value := by
  by_cases like : left.kind = .integer
  · by_cases like' : right.kind = .integer
    · obtain ⟨a, first⟩ := exists_integer like
      obtain ⟨b, second⟩ := exists_integer like'
      by_cases zero : op.Divides ∧ b = 0
      · obtain ⟨divides, rfl⟩ := zero
        exact Or.inl ⟨_, .zero like second divides⟩
      · rw [arithmetic_of_integers _ first second, ArithOp.apply_eq_ok zero]
        exact Or.inr ⟨_, rfl⟩
    · exact Or.inl ⟨_, .right like like'⟩
  · exact Or.inl ⟨_, .left like⟩

lemma arithmetic_eq_error :
    left.arithmetic op right = .error fault ↔ Refuses op left right fault := by
  constructor
  · intro stopped
    rcases refuses_or_ok op left right with ⟨other, refuses⟩ | ⟨value, done⟩
    · cases stopped.symm.trans refuses.arithmetic_eq
      exact refuses
    · cases stopped.symm.trans done
  · exact Refuses.arithmetic_eq

/-- The sign operators refuse everything but integers. -/
lemma sign_eq_error {sign : UnaryOp} (signs : sign ≠ .not) :
    operand.unary sign = .error fault ↔
      operand.kind ≠ .integer ∧ fault = .typeMismatch "numerical" operand.kind := by
  rw [← expectInt_eq_error]
  cases number : operand.expectInt with
  | ok n =>
    cases sign with
    | not => exact absurd rfl signs
    | plus | neg => simp [unary, number, Except.map, bind, Except.bind, pure, Except.pure]
  | error other =>
    cases sign with
    | not => exact absurd rfl signs
    | plus | neg => simp [unary, number, Except.map, bind, Except.bind]

end Value

/-! ## Operators in programs -/

/-- A dividend that is made up of the quotient and the remainder: `(x / y) * y + x % y`. -/
def Expr.madeUp (x y : Expr) (quotient inner product remainder sum : Span) : Expr :=
  .binary
    (.binary (.paren (.binary x (.arithmetic .div) y quotient) inner) (.arithmetic .mul) y product)
    (.arithmetic .add) (.binary x (.arithmetic .mod) y remainder) sum

namespace Eval

variable {functions : String → Option Function} {fuel : Nat} {here : Cursor} {l m n : Machine}

/-- In code that runs, an operator comes to what it comes to on the values of its operands. -/
lemma form_arithmetic (runs : here.phase.executes = true) (op : ArithOp) {left right : Expr}
    (span : Span) {lhs rhs : Value} (first : expr functions fuel here left l = some (.ok lhs, m))
    (second : expr functions fuel here right m = some (.ok rhs, n)) :
    form functions (fuel + 1) here (.binary left (.arithmetic op) right span) l =
      some (lhs.arithmetic op rhs, n) := by
  rw [form, bind_of_ok first, bind_of_ok second, orStandIn_of_executes runs, ofExcept_apply]

lemma form_unary (op : UnaryOp) {operand : Expr} (span : Span) {value : Value}
    (done : expr functions fuel here operand m = some (.ok value, n)) :
    form functions (fuel + 1) here (.unary op operand span) m = some (value.unary op, n) := by
  rw [form, bind_of_ok done, ofExcept_apply]

/-! ### Expressions that denote a value -/

/-- An expression comes to a value in a machine, at whatever line, and does nothing else. -/
def Denotes (functions : String → Option Function) (fuel : Nat) (here : Cursor) (m : Machine)
    (e : Expr) (value : Value) : Prop :=
  ∀ line, expr functions fuel here e { m with line } = some (.ok value, { m with line })

namespace Denotes

variable {e left right : Expr} {value lhs rhs : Value}

lemma of_le {fuel' : Nat} (h : Denotes functions fuel here m e value) (le : fuel ≤ fuel') :
    Denotes functions fuel' here m e value :=
  fun line => expr_of_le functions le (h line)

/-- An expression is evaluated at its own line, and goes back to the line around it. -/
lemma of_form (h : ∀ line, form functions fuel here e { m with line } =
    some (.ok value, { m with line })) : Denotes functions (fuel + 1) here m e value := by
  intro line
  obtain ⟨inner, enters⟩ : ∃ inner,
      enterSpan e.span { m with line } = some (.ok (), { m with line := inner }) := by
    unfold enterSpan
    split
    · exact ⟨_, rfl⟩
    · exact ⟨_, rfl⟩
  rw [expr_succ, atSpan, currentLine_bind, bind_of_ok enters, bind_of_ok (h inner)]
  rfl

lemma integer (number : Int64) (span : Span) :
    Denotes functions 2 here m (.integer number span) (.integer number) :=
  of_form fun _ => rfl

lemma var {name : String} (found : m.memory.get name = .ok value) (span : Span) :
    Denotes functions 2 here m (.var name span) (value.withText name) := by
  refine of_form fun line => ?_
  have looked : lookup name { m with line } = some (.ok (.ok value), { m with line }) := by
    rw [← found]
    rfl
  rw [form, bind_of_ok looked, orStandIn_ok, bind_of_ok (ofExcept_apply _ _), pure_apply]

lemma arithmetic {op : ArithOp} (first : Denotes functions fuel here m left lhs)
    (second : Denotes functions fuel here m right rhs) (done : lhs.arithmetic op rhs = .ok value)
    (span : Span) :
    Denotes functions (fuel + 2) here m (.binary left (.arithmetic op) right span) value := by
  refine of_form fun line => ?_
  rw [form, bind_of_ok (first line), bind_of_ok (second line), done, orStandIn_ok, ofExcept_apply]

lemma paren (inner : Denotes functions fuel here m e value) (span : Span) :
    Denotes functions (fuel + 2) here m (.paren e span)
      (value.withText (Text.parenForm value.text)) := by
  refine of_form fun line => ?_
  rw [form, bind_of_ok (inner line), pure_apply]

/-- The dividend comes back, whatever spans the nodes have. -/
lemma madeUp {x y : Expr} {u v : Value} {a b : Int64} (first : Denotes functions fuel here m x u)
    (integral : u.payload = .integer a) (second : Denotes functions fuel here m y v)
    (integral' : v.payload = .integer b) (nonzero : b ≠ 0)
    (quotient inner product remainder sum : Span) :
    ∃ w, w.payload = .integer a ∧ Denotes functions (fuel + 8) here m
      (.madeUp x y quotient inner product remainder sum) w := by
  obtain ⟨divides, leaves⟩ := Value.division_of_integers integral integral' nonzero
  have front := ((first.arithmetic second divides quotient).paren inner).arithmetic
    (second.of_le (by omega)) (Value.arithmetic_of_integers .mul rfl integral') product
  have back := (first.arithmetic second leaves remainder).of_le (show fuel + 2 ≤ fuel + 6 by omega)
  refine ⟨_, ?_, front.arithmetic back (Value.arithmetic_of_integers .add rfl rfl) sum⟩
  exact congrArg Payload.integer (divided nonzero).restored

end Denotes

end Eval

open Eval

/-- **Integer arithmetic is exact modulo 2 to the 64**, and refuses nothing but a zero divisor.  On
integers, sums, differences, products and negations are the integers that are congruent to the exact
results; quotients are cut toward zero, remainders are smaller than the divisor and have the sign of
the dividend, and the two make up the dividend.  An operator fails only for a wrong kind, which is
looked for from left to right and before anything else, or for a zero divisor.  All this is said of
values; in code that runs, an expression comes to what its operator comes to on the values of its
operands.  If two expressions denote integers `a` and `b` that is not zero, then what is made up of
their quotient and remainder denotes `a`. -/
theorem arithmetic_is_exact :
    (∀ (left right : Value) (a b : Int64), left.payload = .integer a → right.payload = .integer b →
      (∀ op : ArithOp, ¬op.Divides → ∃ n, left.arithmetic op right =
        .ok ⟨.integer n, Text.binaryForm left.text op.text right.text⟩ ∧
          Wraps (op.exact a.toInt b.toInt) n) ∧
      (∃ n, left.unary .neg = .ok ⟨.integer n, Text.unaryForm "-" left.text⟩ ∧
        Wraps (-a.toInt) n) ∧
      (b ≠ 0 → ∃ quotient remainder,
        left.arithmetic .div right =
          .ok ⟨.integer quotient, Text.binaryForm left.text "/" right.text⟩ ∧
        left.arithmetic .mod right =
          .ok ⟨.integer remainder, Text.binaryForm left.text "%" right.text⟩ ∧
        Divided a b quotient remainder)) ∧
    (∀ (op : ArithOp) (left right : Value) (fault : Fault),
      left.arithmetic op right = .error fault ↔ Value.Refuses op left right fault) ∧
    (∀ (sign : UnaryOp) (operand : Value) (fault : Fault), sign ≠ .not →
      (operand.unary sign = .error fault ↔
        operand.kind ≠ .integer ∧ fault = .typeMismatch "numerical" operand.kind)) ∧
    (∀ (functions : String → Option Function) (fuel : Nat) (here : Cursor) (op : ArithOp)
      (left right : Expr) (span : Span) (lhs rhs : Value) (l m n : Machine),
      here.phase.executes = true → expr functions fuel here left l = some (.ok lhs, m) →
      expr functions fuel here right m = some (.ok rhs, n) →
      form functions (fuel + 1) here (.binary left (.arithmetic op) right span) l =
        some (lhs.arithmetic op rhs, n)) ∧
    (∀ (functions : String → Option Function) (fuel : Nat) (here : Cursor) (op : UnaryOp)
      (operand : Expr) (span : Span) (value : Value) (m n : Machine),
      expr functions fuel here operand m = some (.ok value, n) →
      form functions (fuel + 1) here (.unary op operand span) m = some (value.unary op, n)) ∧
    ∀ (functions : String → Option Function) (fuel : Nat) (here : Cursor) (m : Machine)
      (x y : Expr) (u v : Value) (a b : Int64) (quotient inner product remainder sum : Span),
      Denotes functions fuel here m x u → u.payload = .integer a →
      Denotes functions fuel here m y v → v.payload = .integer b → b ≠ 0 →
      ∃ w, w.payload = .integer a ∧ Denotes functions (fuel + 8) here m
        (.madeUp x y quotient inner product remainder sum) w := by
  refine ⟨?_, fun _ _ _ _ => Value.arithmetic_eq_error, fun _ _ _ => Value.sign_eq_error,
    fun _ _ _ op _ _ span _ _ _ _ _ runs first second => form_arithmetic runs op span first second,
    fun _ _ _ op _ span _ _ _ done => form_unary op span done, ?_⟩
  · intro left right a b first second
    refine ⟨fun op undivided => ?_, ?_, fun nonzero => ?_⟩
    · rw [Value.arithmetic_of_integers _ first second,
        ArithOp.apply_eq_ok fun zero => undivided zero.1]
      exact ⟨_, rfl, wraps_ofInt _⟩
    · refine ⟨Int64.ofInt (-a.toInt), ?_, wraps_ofInt _⟩
      rw [Value.unary, Value.expectInt_eq_ok.mpr first, Int64.ofInt_neg, Int64.ofInt_toInt]
      rfl
    · obtain ⟨divides, leaves⟩ := Value.division_of_integers first second nonzero
      exact ⟨a / b, a % b, divides, leaves, divided nonzero⟩
  · intro functions fuel here m x y u v a b s₁ s₂ s₃ s₄ s₅ first integral second integral' nonzero
    exact first.madeUp integral second integral' nonzero s₁ s₂ s₃ s₄ s₅

/-- The least integer divided by minus one, a constant by a variable: the quotient wraps, nothing
remains, and the dividend comes back.  Divided by zero, it is refused. -/
theorem arithmetic_is_exact_least :
    (∃ remainder, Divided Int64.minValue (-1) Int64.minValue remainder) ∧
      (∃ n, (Value.integer Int64.minValue).unary .neg = .ok ⟨.integer n, Text.unaryForm "-"
        (Value.integer Int64.minValue).text⟩ ∧ Wraps (-Int64.minValue.toInt) n) ∧
      form (fun _ => none) 3 (.top .live) (.binary (.integer Int64.minValue .unknown)
        (.arithmetic .mod) (.integer 0 .unknown) .unknown) default =
        some (.error .divisionByZero, default) ∧
      ∃ m w, m.memory.get "b" = .ok (.integer (-1)) ∧ w.payload = .integer Int64.minValue ∧
        Denotes (fun _ => none) 10 (.top .live) m
          (.madeUp (.integer Int64.minValue .unknown) (.var "b" .unknown)
            .unknown .unknown .unknown .unknown .unknown) w := by
  obtain ⟨values, refuses, -, computes, -, madeUp⟩ := arithmetic_is_exact
  obtain ⟨-, negative, quotients⟩ := values (.integer Int64.minValue) (.integer (-1)) _ _ rfl rfl
  refine ⟨?_, negative, ?_, ?_⟩
  · obtain ⟨quotient, remainder, -, -, divided⟩ := quotients (by decide)
    exact ⟨remainder, divided.wrapped rfl rfl ▸ divided⟩
  · have stopped := (refuses .mod (.integer Int64.minValue) (.integer 0) .divisionByZero).mpr
      (.zero rfl rfl (Or.inr rfl))
    rw [computes _ 2 (.top .live) .mod _ _ _ _ _ default default default rfl rfl rfl, stopped]
  · let m : Machine :=
      { memory := (Memory.empty.push "main" 0).define "b" (.integer (-1)), transcript := default,
        input := default, trace := none, line := 0 }
    have found : m.memory.get "b" = .ok (.integer (-1)) := rfl
    obtain ⟨w, least, denotes⟩ := madeUp (fun _ => none) 2 (.top .live) m _ _ _ _ _ _
      .unknown .unknown .unknown .unknown .unknown (.integer Int64.minValue .unknown) rfl
      (.var found .unknown) rfl (by decide)
    exact ⟨m, w, found, least, denotes⟩

end RobotScribe
