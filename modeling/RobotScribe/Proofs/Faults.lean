/-
# Faults of values and of calls

An operation on values fails in two ways only: what is computed does not exist for these data,
as a quotient by zero or an element beyond the end, or a value is of a wrong kind.  Dry code
answers faults of the first sort by stand-ins.

What is left are calls that do not fit the declarations.  Which calls a piece of code makes, and
whether it uses their results, is a matter of its syntax.
-/
import RobotScribe.Evaluation.Evaluate
import Mathlib.Tactic.Lemma

namespace RobotScribe

/-! ## Two sorts of faults -/

namespace Fault

/-- A value is not of the kind that it has to be. -/
def WrongKind (fault : Fault) : Prop := ∃ expected found, fault = .typeMismatch expected found

/-- The faults of operations on values: they come from data, or a kind is wrong. -/
inductive OfValues : Fault → Prop where
  | data {fault : Fault} (comes : fault.comesFromData = true) : OfValues fault
  | kind {fault : Fault} (wrong : fault.WrongKind) : OfValues fault

end Fault

/-! ## The operations -/

namespace Value

variable {v array element left right : Value} {fault : Fault}

lemma expectInt_error (h : v.expectInt = .error fault) : fault.WrongKind := by
  unfold expectInt at h
  split at h
  · cases h
  · cases h
    exact ⟨_, _, rfl⟩

lemma expectBool_error (h : v.expectBool = .error fault) : fault.WrongKind := by
  unfold expectBool at h
  split at h
  · cases h
  · cases h
    exact ⟨_, _, rfl⟩

lemma expectColor_error (h : v.expectColor = .error fault) : fault.WrongKind := by
  unfold expectColor at h
  split at h
  · cases h
  · cases h
    exact ⟨_, _, rfl⟩

/-- A chain of tests is stopped by one of them. -/
lemma bind_eq_error {α β : Type} {x : Except Fault α} {f : α → Except Fault β}
    (h : (x >>= f) = .error fault) : x = .error fault ∨ ∃ a, x = .ok a ∧ f a = .error fault := by
  cases x with
  | error other =>
    cases h
    exact Or.inl rfl
  | ok a => exact Or.inr ⟨a, rfl, h⟩

lemma apply_error {op : ArithOp} {a b : Int64} (h : op.apply a b = .error fault) :
    fault = .divisionByZero := by
  have divides : ∀ {n : Int64}, (if b = 0 then Except.error .divisionByZero else .ok n) =
      .error fault → fault = .divisionByZero := by
    intro n h
    split at h
    · cases h
      rfl
    · cases h
  cases op with
  | add | sub | mul => cases h
  | div | mod => exact divides h

lemma arithmetic_error {op : ArithOp} (h : left.arithmetic op right = .error fault) :
    fault.OfValues := by
  unfold arithmetic at h
  rcases bind_eq_error h with h | ⟨a, -, h⟩
  · exact .kind (expectInt_error h)
  rcases bind_eq_error h with h | ⟨b, -, h⟩
  · exact .kind (expectInt_error h)
  rcases bind_eq_error h with h | ⟨n, -, h⟩
  · rw [apply_error h]
    exact .data rfl
  · cases h

lemma relational_error {op : Relation} (h : left.relational op right = .error fault) :
    fault.WrongKind := by
  unfold relational at h
  by_cases kinds : left.kind = right.kind
  · rw [if_neg (not_not_intro kinds)] at h
    rcases bind_eq_error h with h | ⟨holds, -, h⟩
    · unfold Payload.compares at h
      split at h
      · cases h
      · cases h
      · split at h
        · cases h
        · cases h
          exact ⟨_, _, rfl⟩
    · cases h
  · rw [if_pos kinds] at h
    cases h
    exact ⟨_, _, rfl⟩

lemma bitwise_error {op : BitOp} (h : left.bitwise op right = .error fault) : fault.WrongKind := by
  unfold bitwise at h
  dsimp only at h
  split at h
  · cases h
  · cases h
  all_goals
    cases h
    exact ⟨_, _, rfl⟩

lemma unary_error {op : UnaryOp} (h : v.unary op = .error fault) : fault.WrongKind := by
  have mapped : ∀ {α : Type} {x : Except Fault α} {f : α → Payload}, x.map f = .error fault →
      x = .error fault := by
    intro α x f h
    cases x with
    | ok a => cases h
    | error other =>
      cases h
      rfl
  unfold unary at h
  cases op with
  | plus =>
    rcases bind_eq_error h with h | ⟨payload, -, h⟩
    · exact expectInt_error (mapped h)
    · cases h
  | neg =>
    rcases bind_eq_error h with h | ⟨payload, -, h⟩
    · exact expectInt_error (mapped h)
    · cases h
  | not =>
    rcases bind_eq_error h with h | ⟨payload, -, h⟩
    · exact expectBool_error (mapped h)
    · cases h

lemma element_error {index : Int64} (h : array.element index = .error fault) : fault.OfValues := by
  unfold Value.element at h
  split at h
  · split at h
    · cases h
    · cases h
      exact .data rfl
  · split at h
    · cases h
    · cases h
      exact .data rfl
  · cases h
    exact .kind ⟨_, _, rfl⟩

lemma storeElement_error {index : Int64} (h : array.storeElement index element = .error fault) :
    fault.OfValues := by
  unfold Value.storeElement at h
  split at h
  · cases h
    exact .data rfl
  · split at h
    · cases h
    · cases h
    all_goals
      cases h
      exact .kind ⟨_, _, rfl⟩

lemma emptyArrayFor_error (h : emptyArrayFor element = .error fault) : fault.OfValues := by
  unfold emptyArrayFor at h
  split at h
  · cases h
  · cases h
  · cases h
    exact .kind ⟨_, _, rfl⟩

end Value

namespace Memory

variable {m : Memory} {name : String} {fault : Fault}

lemma get_error (h : m.get name = .error fault) : fault = .undefinedVariable name := by
  unfold Memory.get at h
  split at h
  · cases h
  · cases h
    rfl

lemma storeElement_error {index : Int64} {element : Value}
    (h : m.storeElement name index element = .error fault) : fault.OfValues := by
  unfold Memory.storeElement at h
  split at h
  · rcases Value.bind_eq_error h with h | ⟨array, -, h⟩
    · exact Value.storeElement_error h
    · cases h
  · rcases Value.bind_eq_error h with h | ⟨array, -, h⟩
    · exact Value.emptyArrayFor_error h
    rcases Value.bind_eq_error h with h | ⟨array', -, h⟩
    · exact Value.storeElement_error h
    · cases h

end Memory

/-! ## The calls that code makes -/

mutual

/-- A call is made somewhere in an expression, and its result is used or not. -/
inductive Expr.Makes : Expr → Call → Bool → Prop where
  | element (array : Ident) {index : Expr} (span : Span) {site : Call} {used : Bool}
      (inner : Expr.Makes index site used) : Expr.Makes (.element array index span) site used
  | result (site : Call) (span : Span) : Expr.Makes (.call site span) site true
  | call {made : Call} (span : Span) {site : Call} {used : Bool}
      (inner : Call.Makes made site used) : Expr.Makes (.call made span) site used
  | sense {sensor : Sensor} (span : Span) {site : Call} {used : Bool}
      (inner : Sensor.Makes sensor site used) : Expr.Makes (.sense sensor span) site used
  | left {left : Expr} (op : BinOp) (right : Expr) (span : Span) {site : Call} {used : Bool}
      (inner : Expr.Makes left site used) : Expr.Makes (.binary left op right span) site used
  | right (left : Expr) (op : BinOp) {right : Expr} (span : Span) {site : Call} {used : Bool}
      (inner : Expr.Makes right site used) : Expr.Makes (.binary left op right span) site used
  | operand (op : UnaryOp) {operand : Expr} (span : Span) {site : Call} {used : Bool}
      (inner : Expr.Makes operand site used) : Expr.Makes (.unary op operand span) site used
  | paren {within : Expr} (span : Span) {site : Call} {used : Bool}
      (inner : Expr.Makes within site used) : Expr.Makes (.paren within span) site used

/-- A call is made, or one of its arguments makes a call. -/
inductive Call.Makes : Call → Call → Bool → Prop where
  | self (site : Call) : Call.Makes site site false
  | argument {made : Call} {arg : Expr} (mem : arg ∈ made.args) {site : Call} {used : Bool}
      (inner : Expr.Makes arg site used) : Call.Makes made site used

/-- A call is made to read a sensor. -/
inductive Sensor.Makes : Sensor → Call → Bool → Prop where
  | look {direction : Expr} {site : Call} {used : Bool} (inner : Expr.Makes direction site used) :
      Sensor.Makes (.look direction) site used

end

/-- A call is made somewhere in a statement, and its result is used or not. -/
inductive Stmt.Makes : Stmt → Call → Bool → Prop where
  | value (target : Target) {value : Expr} (span : Span) {site : Call} {used : Bool}
      (inner : value.Makes site used) : Stmt.Makes (.assign target value span) site used
  | index (array : Ident) {index : Expr} (value : Expr) (span : Span) {site : Call} {used : Bool}
      (inner : index.Makes site used) :
      Stmt.Makes (.assign (.element array index) value span) site used
  | condition {condition : Expr} (thenBlock : Block) (elseBlock : Option Block) (span : Span)
      {site : Call} {used : Bool} (inner : condition.Makes site used) :
      Stmt.Makes (.ifThen condition thenBlock elseBlock span) site used
  | thenBlock (condition : Expr) {block : Block} (elseBlock : Option Block) (span : Span)
      {s : Stmt} (mem : s ∈ block.stmts) {site : Call} {used : Bool}
      (inner : Stmt.Makes s site used) :
      Stmt.Makes (.ifThen condition block elseBlock span) site used
  | elseBlock (condition : Expr) (thenBlock : Block) {block : Block} (span : Span)
      {s : Stmt} (mem : s ∈ block.stmts) {site : Call} {used : Bool}
      (inner : Stmt.Makes s site used) :
      Stmt.Makes (.ifThen condition thenBlock (some block) span) site used
  | test {condition : Expr} (body : Block) (span : Span) {site : Call} {used : Bool}
      (inner : condition.Makes site used) : Stmt.Makes (.whileDo condition body span) site used
  | body (condition : Expr) {block : Block} (span : Span) {s : Stmt} (mem : s ∈ block.stmts)
      {site : Call} {used : Bool} (inner : Stmt.Makes s site used) :
      Stmt.Makes (.whileDo condition block span) site used
  | giveBack {value : Expr} (span : Span) {site : Call} {used : Bool}
      (inner : value.Makes site used) : Stmt.Makes (.giveBack (some value) span) site used
  | write {value : Expr} (span : Span) {site : Call} {used : Bool}
      (inner : value.Makes site used) : Stmt.Makes (.write value span) site used
  | actuate (actuator : Actuator) {args : List Expr} (span : Span) {arg : Expr} (mem : arg ∈ args)
      {site : Call} {used : Bool} (inner : arg.Makes site used) :
      Stmt.Makes (.actuate actuator args span) site used
  | paint {color : Expr} (span : Span) {site : Call} {used : Bool}
      (inner : color.Makes site used) : Stmt.Makes (.paint color span) site used
  | sense {sensor : Sensor} (span : Span) {site : Call} {used : Bool}
      (inner : Sensor.Makes sensor site used) : Stmt.Makes (.sense sensor span) site used
  | call {made : Call} {site : Call} {used : Bool} (inner : Call.Makes made site used) :
      Stmt.Makes (.call made) site used

/-- A call is made in one of some statements. -/
def MakesIn (statements : List Stmt) (site : Call) (used : Bool) : Prop :=
  ∃ s ∈ statements, s.Makes site used

/-- A call is made in one of some expressions. -/
def MakesAmong (es : List Expr) (site : Call) (used : Bool) : Prop :=
  ∃ e ∈ es, e.Makes site used

section

variable {s : Stmt} {statements : List Stmt} {e : Expr} {es : List Expr} {site : Call} {used : Bool}

lemma MakesIn.head (made : s.Makes site used) : MakesIn (s :: statements) site used :=
  ⟨s, List.mem_cons_self, made⟩

lemma MakesIn.tail (made : MakesIn statements site used) : MakesIn (s :: statements) site used := by
  obtain ⟨other, mem, made⟩ := made
  exact ⟨other, List.mem_cons_of_mem s mem, made⟩

lemma MakesAmong.head (made : e.Makes site used) : MakesAmong (e :: es) site used :=
  ⟨e, List.mem_cons_self, made⟩

lemma MakesAmong.tail (made : MakesAmong es site used) : MakesAmong (e :: es) site used := by
  obtain ⟨other, mem, made⟩ := made
  exact ⟨other, List.mem_cons_of_mem e mem, made⟩

end

/-! ## Calls that do not fit -/

variable (functions : String → Option Function)

/-- The faults of a call that does not fit the declaration of what it calls. -/
inductive Call.Misfit (site : Call) (used : Bool) : Fault → Prop where
  | undeclared (undeclared : functions site.name.name = none) :
      Misfit site used (.undeclaredFunction site.name.name)
  | arity {function : Function} (declared : functions site.name.name = some function)
      (differ : site.args.length ≠ function.params.length) :
      Misfit site used (.arityMismatch function.name.name function.params.length site.args.length)
  | argument {function : Function} (declared : functions site.name.name = some function)
      {param : Param} {arg : Expr} (given : (param, arg) ∈ function.params.zip site.args)
      (reference : param.isReference = true) (other : arg.variableName? = none) :
      Misfit site used (.invalidArgument function.name.name param.name.name)
  | void {function : Function} (declared : functions site.name.name = some function)
      (returns : function.returns = some .void) (value : used = true) :
      Misfit site used (.voidResultUsed site.name.name)

/-- The faults of some calls that do not fit. -/
def Misfits (makes : Call → Bool → Prop) (fault : Fault) : Prop :=
  ∃ site used, makes site used ∧ site.Misfit functions used fault

variable {functions} {makes makes' : Call → Bool → Prop}

/-- Code that makes more calls may fail for more of them. -/
lemma Misfits.imp (more : ∀ {site used}, makes site used → makes' site used) (fault : Fault)
    (misfits : Misfits functions makes fault) : Misfits functions makes' fault := by
  obtain ⟨site, used, made, misfit⟩ := misfits
  exact ⟨site, used, more made, misfit⟩

end RobotScribe
