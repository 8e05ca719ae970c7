/-
# A walk through the evaluator

Much of what is said about the evaluator is said of all its parts at once, and is shown part by
part: of every operation that it uses, and of every way in which it puts parts together.  This
file goes through the evaluator once and for all.  It does so for two runs of the same code
side by side, at two cursors and with two amounts of fuel, since a property of one run is a
special case.

A `Walk` is a relation between computations that the operations respect.  Calls and code that
does not run are left to each walk: frames come and go in calls, and what code that does not
run comes to depends on the phase.  Where these are related, everything is (`Walk.everywhere`).

A walk need not relate values that are looked up, lines or slots, which may differ in the two runs.
Where a value is looked up its text is replaced, so it is enough to relate what does not depend on
that text; a walk that relates the values is a `ValueWalk`.  One that relates lines, too, a
`LineWalk`, can follow the line of each node step by step.  One that relates slots goes through the
arguments of calls; a `SlotWalk` relates all of these.
-/
import RobotScribe.Proofs.Computation

namespace RobotScribe

open Eval

/-! ## Walks -/

/-- A relation between computations at two cursors that the operations of the evaluator
respect. -/
structure Walk where
  /-- Whether two computations are related, at two cursors. -/
  Rel : Cursor → Cursor → ∀ ⦃α : Type⦄, Eval α → Eval α → Prop
  /-- The cursors at which expressions are looked at. -/
  Aligned : Cursor → Cursor → Prop
  /-- The cursors at which statements are looked at. -/
  Entered : Cursor → Cursor → Prop
  executes_eq : ∀ {here there}, Aligned here there →
    here.phase.executes = there.phase.executes
  aligned : ∀ {here there}, Entered here there → Aligned here there
  entered_deeper : ∀ {here there}, Entered here there → Entered here.deeper there.deeper
  entered_silent : ∀ {here there}, Entered here there → here.phase.executes = true →
    Entered (here.inPhase .silent) (there.inPhase .silent)
  /-- What blocks do is done by the code around them. -/
  of_deeper : ∀ {here there} {α : Type} {x y : Eval α},
    Rel here.deeper there.deeper x y → Rel here there x y
  /-- What the later rounds of a loop do is done by the loop. -/
  of_silent : ∀ {here there} {α : Type} {x y : Eval α}, here.phase.executes = true →
    Rel (here.inPhase .silent) (there.inPhase .silent) x y → Rel here there x y
  outOfFuel : ∀ {here there} {α : Type} (y : Eval α), Rel here there outOfFuel y
  pure : ∀ {here there} {α : Type} (a : α), Rel here there (pure a : Eval α) (pure a)
  throw : ∀ {here there} {α : Type} (fault : Fault),
    Rel here there (throw fault : Eval α) (throw fault)
  bind : ∀ {here there} {α β : Type} {x y : Eval α} {f g : α → Eval β}, Rel here there x y →
    (∀ a, Rel here there (f a) (g a)) → Rel here there (x >>= f) (y >>= g)
  ofExcept : ∀ {here there} {α : Type} (outcome : Except Fault α),
    Rel here there (Eval.ofExcept outcome) (Eval.ofExcept outcome)
  enterSpan : ∀ {here there} span, Rel here there (enterSpan span) (enterSpan span)
  /-- What is done at the line of a node, and not what that line is. -/
  atSpan : ∀ {here there} {α : Type} {x y : Eval α} span, Rel here there x y →
    Rel here there (atSpan span x) (atSpan span y)
  /-- What is done with a value that is looked up, and does not depend on its text. -/
  afterLookup : ∀ {here there} {α : Type} {f g : Except Fault Value → Eval α} name,
    (∀ value text, f (.ok (value.withText text)) = f (.ok value)) →
    (∀ found, Rel here there (f found) (g found)) →
    Rel here there (lookup name >>= f) (lookup name >>= g)
  define : ∀ {here there}, Entered here there → ∀ name value,
    Rel here there (define name value) (define name value)
  storeElement : ∀ {here there}, Entered here there → ∀ name index element,
    Rel here there (storeElement name index element) (storeElement name index element)
  nextInteger : ∀ {here there}, Entered here there → here.phase.executes = true →
    Rel here there nextInteger nextInteger
  emit : ∀ {here there}, Entered here there → ∀ text,
    Rel here there (emit here text) (emit there text)

/-- Going on at the line of a node is either going on at some line or nothing at all. -/
lemma Eval.enterSpan_of (R : Eval Unit → Eval Unit → Prop) (stay : R (pure ()) (pure ()))
    (move : ∀ line, R (setLine line) (setLine line)) (span : Span) :
    R (enterSpan span) (enterSpan span) := by
  unfold enterSpan
  split
  · exact move _
  · exact stay

/-- A walk that relates values that are looked up. -/
structure ValueWalk extends Walk where
  lookup : ∀ {here there} name, Rel here there (lookup name) (lookup name)
  afterLookup := fun name _ => bind (lookup name)

/-- A walk that relates lines, too. -/
structure LineWalk extends ValueWalk where
  currentLine : ∀ {here there}, Rel here there currentLine currentLine
  setLine : ∀ {here there} line, Rel here there (setLine line) (setLine line)
  enterSpan := @fun here there span =>
    enterSpan_of (fun x y => Rel here there x y) (pure ()) setLine span
  atSpan := fun span h =>
    bind currentLine fun outer => bind (enterSpan span) fun _ =>
      bind h fun a => bind (setLine outer) fun _ => pure a

/-- A walk that relates values that are looked up, lines and slots. -/
structure SlotWalk extends LineWalk where
  slotOf : ∀ {here there} name, Rel here there (slotOf name) (slotOf name)
  newSlot : ∀ {here there} value, Rel here there (newSlot value) (newSlot value)

namespace Walk

variable (W : Walk) (functions : String → Option Function)

/-- All parts of the evaluator are related, with so much fuel on either side. -/
structure Everywhere (fuel fuel' : Nat) : Prop where
  expr : ∀ {here there}, W.Aligned here there → ∀ e,
    W.Rel here there (expr functions fuel here e) (expr functions fuel' there e)
  form : ∀ {here there}, W.Aligned here there → ∀ e,
    W.Rel here there (form functions fuel here e) (form functions fuel' there e)
  sense : ∀ {here there}, W.Aligned here there → ∀ sensor,
    W.Rel here there (sense functions fuel here sensor) (sense functions fuel' there sensor)
  call : ∀ {here there}, W.Aligned here there → ∀ site,
    W.Rel here there (call functions fuel here site) (call functions fuel' there site)
  numbers : ∀ {here there}, W.Aligned here there → ∀ args,
    W.Rel here there (numbers functions fuel here args) (numbers functions fuel' there args)
  stmts : ∀ {here there}, W.Entered here there → ∀ statements,
    W.Rel here there (stmts functions fuel here statements)
      (stmts functions fuel' there statements)
  stmt : ∀ {here there}, W.Entered here there → ∀ s,
    W.Rel here there (stmt functions fuel here s) (stmt functions fuel' there s)
  branch : ∀ {here there}, W.Entered here there → ∀ block taken,
    W.Rel here there (branch functions fuel here block taken)
      (branch functions fuel' there block taken)
  firstRound : ∀ {here there}, W.Entered here there → ∀ condition body entered,
    W.Rel here there (firstRound functions fuel here condition body entered)
      (firstRound functions fuel' there condition body entered)
  rounds : ∀ {here there}, W.Entered here there → here.phase.executes = true →
    ∀ condition body, W.Rel here there (rounds functions fuel here condition body)
      (rounds functions fuel' there condition body)
  leaveOut : ∀ {here there}, W.Entered here there → here.phase.executes = true →
    ∀ statements flow, W.Rel here there (leaveOut functions fuel here statements flow)
      (leaveOut functions fuel' there statements flow)

variable {W functions} {fuel fuel' : Nat} {here there : Cursor}

lemma orStandIn (aligned : W.Aligned here there) {α : Type} (fallback : α)
    (outcome : Except Fault α) :
    W.Rel here there (Eval.ofExcept (orStandIn here.phase fallback outcome))
      (Eval.ofExcept (orStandIn there.phase fallback outcome)) := by
  rw [Phase.orStandIn_congr (W.executes_eq aligned)]
  exact W.ofExcept _

namespace Everywhere

variable (ih : W.Everywhere functions fuel fuel')
include ih

/-! ## Expressions -/

section

variable (aligned : W.Aligned here there)
include aligned

lemma expr_succ (e : Expr) :
    W.Rel here there (Eval.expr functions (fuel + 1) here e)
      (Eval.expr functions (fuel' + 1) there e) := by
  rw [Eval.expr_succ, Eval.expr_succ]
  exact W.atSpan _ (ih.form aligned e)

lemma sense_succ (sensor : Sensor) :
    W.Rel here there (Eval.sense functions (fuel + 1) here sensor)
      (Eval.sense functions (fuel' + 1) there sensor) := by
  cases sensor with
  | look direction =>
    rw [Eval.sense, Eval.sense]
    exact W.bind (ih.expr aligned direction) fun _ => W.bind (W.ofExcept _) fun _ => W.pure _
  | _ => exact W.pure _

lemma form_succ (e : Expr) :
    W.Rel here there (Eval.form functions (fuel + 1) here e)
      (Eval.form functions (fuel' + 1) there e) := by
  cases e with
  | integer n span => exact W.pure _
  | boolean b span => exact W.pure _
  | string s span => exact W.pure _
  | color c span => exact W.pure _
  | var name span =>
    rw [Eval.form, Eval.form]
    refine W.afterLookup name (fun _ _ => rfl) fun _ => ?_
    exact W.bind (orStandIn aligned _ _) fun _ => W.pure _
  | element array index span =>
    rw [Eval.form, Eval.form]
    refine W.bind (ih.expr aligned index) fun _ => W.bind (W.ofExcept _) fun _ => ?_
    refine W.afterLookup array.name (fun _ _ => rfl) fun _ => ?_
    refine W.bind (orStandIn aligned _ _) fun _ => ?_
    exact W.bind (orStandIn aligned _ _) fun _ => W.pure _
  | call site span =>
    rw [Eval.form, Eval.form]
    refine W.bind (ih.call aligned site) fun value => ?_
    split
    · exact W.bind (W.throw _) fun _ => W.pure _
    · exact W.pure _
  | sense sensor span =>
    rw [Eval.form, Eval.form]
    exact ih.sense aligned sensor
  | binary left op right span =>
    cases op with
    | logical op =>
      rw [Eval.form, Eval.form]
      refine W.bind (ih.expr aligned left) fun lhs => W.bind (W.ofExcept _) fun l => ?_
      split
      · exact W.pure _
      · refine W.bind (ih.expr aligned right) fun _ => ?_
        exact W.bind (W.ofExcept _) fun _ => W.pure _
    | arithmetic op =>
      rw [Eval.form, Eval.form]
      refine W.bind (ih.expr aligned left) fun _ => W.bind (ih.expr aligned right) fun _ => ?_
      exact orStandIn aligned _ _
    | relational op =>
      rw [Eval.form, Eval.form]
      refine W.bind (ih.expr aligned left) fun _ => W.bind (ih.expr aligned right) fun _ => ?_
      exact W.ofExcept _
    | bitwise op =>
      rw [Eval.form, Eval.form]
      refine W.bind (ih.expr aligned left) fun _ => W.bind (ih.expr aligned right) fun _ => ?_
      exact W.ofExcept _
  | unary op operand span =>
    rw [Eval.form, Eval.form]
    exact W.bind (ih.expr aligned operand) fun _ => W.ofExcept _
  | paren inner span =>
    rw [Eval.form, Eval.form]
    exact W.bind (ih.expr aligned inner) fun _ => W.pure _

lemma numbers_succ (args : List Expr) :
    W.Rel here there (Eval.numbers functions (fuel + 1) here args)
      (Eval.numbers functions (fuel' + 1) there args) := by
  cases args with
  | nil => exact W.pure []
  | cons arg args =>
    rw [Eval.numbers, Eval.numbers]
    refine W.bind (ih.expr aligned arg) fun _ => W.bind (W.ofExcept _) fun _ => ?_
    exact W.bind (ih.numbers aligned args) fun _ => W.pure _

end

/-! ## Statements -/

variable (entered : W.Entered here there)
include entered

lemma stmts_succ (statements : List Stmt) :
    W.Rel here there (Eval.stmts functions (fuel + 1) here statements)
      (Eval.stmts functions (fuel' + 1) there statements) := by
  have same : here.phase.executes = there.phase.executes := W.executes_eq (W.aligned entered)
  cases statements with
  | nil => exact W.pure none
  | cons s rest =>
    cases runs : here.phase.executes with
    | true =>
      rw [stmts_cons_of_executes functions runs,
        stmts_cons_of_executes functions (same.symm.trans runs)]
      refine W.bind (ih.stmt entered s) fun flow => ?_
      cases flow with
      | none => exact ih.stmts entered rest
      | some value => exact ih.leaveOut entered runs rest (some value)
    | false =>
      rw [stmts_cons_of_dry functions (Phase.eq_dry_of_executes runs),
        stmts_cons_of_dry functions (Phase.eq_dry_of_executes (same.symm.trans runs))]
      exact W.bind (ih.stmt entered s) fun _ => ih.stmts entered rest

lemma branch_succ (block : Block) (taken : Bool) :
    W.Rel here there (Eval.branch functions (fuel + 1) here block taken)
      (Eval.branch functions (fuel' + 1) there block taken) := by
  have same : here.phase.executes = there.phase.executes := W.executes_eq (W.aligned entered)
  have inside : W.Entered here.deeper there.deeper := W.entered_deeper entered
  cases runs : here.phase.executes with
  | true =>
    rw [branch_of_executes functions runs,
      branch_of_executes functions (same.symm.trans runs)]
    split
    · exact W.of_deeper (ih.stmts inside block.stmts)
    · exact W.of_deeper (ih.leaveOut inside runs block.stmts none)
  | false =>
    rw [branch_of_dry functions (Phase.eq_dry_of_executes runs),
      branch_of_dry functions (Phase.eq_dry_of_executes (same.symm.trans runs))]
    exact W.bind (W.of_deeper (ih.stmts inside block.stmts)) fun _ => W.pure none

lemma firstRound_succ (condition : Expr) (body : Block) (taken : Bool) :
    W.Rel here there (Eval.firstRound functions (fuel + 1) here condition body taken)
      (Eval.firstRound functions (fuel' + 1) there condition body taken) := by
  have same : here.phase.executes = there.phase.executes := W.executes_eq (W.aligned entered)
  have inside : W.Entered here.deeper there.deeper := W.entered_deeper entered
  cases runs : here.phase.executes with
  | true =>
    rw [firstRound_of_executes functions runs,
      firstRound_of_executes functions (same.symm.trans runs)]
    split
    · exact ih.rounds entered runs condition body
    · exact W.of_deeper (ih.leaveOut inside runs body.stmts none)
  | false =>
    rw [firstRound_of_dry functions (Phase.eq_dry_of_executes runs),
      firstRound_of_dry functions (Phase.eq_dry_of_executes (same.symm.trans runs))]
    exact W.bind (W.of_deeper (ih.stmts inside body.stmts)) fun _ => W.pure none

/-- The first round of a loop is in the phase of the loop, and the later ones are silent. -/
lemma rounds_succ (runs : here.phase.executes = true) (condition : Expr) (body : Block) :
    W.Rel here there (Eval.rounds functions (fuel + 1) here condition body)
      (Eval.rounds functions (fuel' + 1) there condition body) := by
  have inside : W.Entered here.deeper there.deeper := W.entered_deeper entered
  have later : W.Entered (here.inPhase .silent) (there.inPhase .silent) :=
    W.entered_silent entered runs
  rw [Eval.rounds, Eval.rounds]
  refine W.bind (W.of_deeper (ih.stmts inside body.stmts)) fun flow => ?_
  cases flow with
  | some value => exact W.pure _
  | none =>
    refine W.bind (W.of_silent runs (ih.expr (W.aligned later) condition)) fun value => ?_
    refine W.bind (W.ofExcept _) fun again => ?_
    split
    · exact W.of_silent runs (ih.rounds later rfl condition body)
    · exact W.pure none

lemma secondBranch_of (elseBlock : Option Block) (taken : Bool) (first : Flow) :
    W.Rel here there (secondBranch functions fuel here elseBlock taken first)
      (secondBranch functions fuel' there elseBlock taken first) := by
  cases elseBlock with
  | none => exact W.pure first
  | some block =>
    refine W.bind (W.emit entered _) fun _ => ?_
    exact W.bind (ih.branch entered block _) fun _ => W.pure _

lemma stmt_succ (s : Stmt) :
    W.Rel here there (Eval.stmt functions (fuel + 1) here s)
      (Eval.stmt functions (fuel' + 1) there s) := by
  have aligned : W.Aligned here there := W.aligned entered
  have same : here.phase.executes = there.phase.executes := W.executes_eq aligned
  cases s with
  | assign target value span =>
    cases target with
    | var target =>
      rw [Eval.stmt, Eval.stmt]
      refine W.bind (W.enterSpan _) fun _ => W.bind (ih.expr aligned value) fun _ => ?_
      refine W.bind (W.emit entered _) fun _ => ?_
      exact W.bind (W.define entered _ _) fun _ => W.pure none
    | element array index =>
      rw [Eval.stmt, Eval.stmt]
      refine W.bind (W.enterSpan _) fun _ => W.bind (ih.expr aligned value) fun _ => ?_
      refine W.bind (ih.expr aligned index) fun _ => W.bind (W.ofExcept _) fun _ => ?_
      refine W.bind (W.emit entered _) fun _ => ?_
      refine W.bind (W.storeElement entered _ _ _) fun _ => ?_
      exact W.bind (orStandIn aligned _ _) fun _ => W.pure none
  | ifThen condition thenBlock elseBlock span =>
    rw [Eval.stmt_ifThen, Eval.stmt_ifThen]
    refine W.bind (W.enterSpan _) fun _ => W.bind (ih.expr aligned condition) fun _ => ?_
    refine W.bind (W.ofExcept _) fun taken => W.bind (W.emit entered _) fun _ => ?_
    refine W.bind (ih.branch entered thenBlock taken) fun first => ?_
    refine W.bind (ih.secondBranch_of entered elseBlock taken first) fun _ => ?_
    exact W.bind (W.emit entered _) fun _ => W.pure _
  | whileDo condition body span =>
    rw [Eval.stmt, Eval.stmt]
    refine W.bind (W.enterSpan _) fun _ => W.bind (ih.expr aligned condition) fun _ => ?_
    refine W.bind (W.ofExcept _) fun taken => W.bind (W.emit entered _) fun _ => ?_
    refine W.bind (ih.firstRound entered condition body taken) fun _ => ?_
    exact W.bind (W.emit entered _) fun _ => W.pure _
  | giveBack value span =>
    cases value with
    | none =>
      rw [Eval.stmt, Eval.stmt]
      exact W.bind (W.enterSpan _) fun _ => W.bind (W.emit entered _) fun _ => W.pure _
    | some value =>
      rw [Eval.stmt, Eval.stmt]
      refine W.bind (W.enterSpan _) fun _ => W.bind (ih.expr aligned value) fun _ => ?_
      exact W.bind (W.emit entered _) fun _ => W.pure _
  | read target span =>
    rw [Eval.stmt, Eval.stmt, same]
    refine W.bind (W.enterSpan _) fun _ => ?_
    dsimp only
    split
    · next runs =>
      refine W.bind (W.nextInteger entered (same.trans runs)) fun _ => ?_
      exact W.bind (W.define entered _ _) fun _ => W.pure none
    · exact W.bind (W.define entered _ _) fun _ => W.pure none
  | write value span =>
    rw [Eval.stmt, Eval.stmt]
    refine W.bind (W.enterSpan _) fun _ => W.bind (ih.expr aligned value) fun value => ?_
    rw [Phase.printed_congr same]
    exact W.bind (W.emit entered _) fun _ => W.pure none
  | actuate actuator args span =>
    rw [Eval.stmt, Eval.stmt]
    refine W.bind (W.enterSpan _) fun _ => W.bind (ih.numbers aligned args) fun _ => ?_
    exact W.bind (W.emit entered _) fun _ => W.pure none
  | paint color span =>
    rw [Eval.stmt, Eval.stmt]
    refine W.bind (W.enterSpan _) fun _ => W.bind (ih.expr aligned color) fun _ => ?_
    exact W.bind (W.ofExcept _) fun _ => W.bind (W.emit entered _) fun _ => W.pure none
  | pen down span =>
    rw [Eval.stmt, Eval.stmt]
    exact W.bind (W.enterSpan _) fun _ => W.bind (W.emit entered _) fun _ => W.pure none
  | sense sensor span =>
    rw [Eval.stmt, Eval.stmt]
    refine W.bind (W.enterSpan _) fun _ => W.bind (ih.sense aligned sensor) fun _ => ?_
    exact W.bind (W.emit entered _) fun _ => W.pure none
  | call site =>
    rw [Eval.stmt, Eval.stmt]
    exact W.bind (W.enterSpan _) fun _ => W.bind (ih.call aligned site) fun _ => W.pure none

end Everywhere

/-! ## The induction -/

/-- **A walk goes through all of the evaluator** if it goes through calls and through code that
is left out, whenever it has been through everything with less fuel.  The second run may have
more fuel than the first. -/
theorem everywhere (extra : Nat)
    (call : ∀ fuel, (∀ less < fuel, W.Everywhere functions less (less + extra)) →
      ∀ {here there}, W.Aligned here there → ∀ site,
      W.Rel here there (call functions fuel here site) (call functions (fuel + extra) there site))
    (leaveOut : ∀ fuel, (∀ less < fuel, W.Everywhere functions less (less + extra)) →
      ∀ {here there}, W.Entered here there → here.phase.executes = true → ∀ statements flow,
      W.Rel here there (leaveOut functions fuel here statements flow)
        (leaveOut functions (fuel + extra) there statements flow))
    (fuel : Nat) : W.Everywhere functions fuel (fuel + extra) := by
  induction fuel using Nat.strongRecOn with
  | ind fuel before =>
    cases fuel with
    | zero =>
      exact {
        expr := fun _ _ => W.outOfFuel _
        form := fun _ _ => W.outOfFuel _
        sense := fun _ _ => W.outOfFuel _
        call := call 0 before
        numbers := fun _ _ => W.outOfFuel _
        stmts := fun _ _ => W.outOfFuel _
        stmt := fun _ _ => W.outOfFuel _
        branch := fun _ _ _ => W.outOfFuel _
        firstRound := fun _ _ _ _ => W.outOfFuel _
        rounds := fun _ _ _ _ => W.outOfFuel _
        leaveOut := leaveOut 0 before }
    | succ fuel =>
      have ih : W.Everywhere functions fuel (fuel + extra) :=
        before fuel (Nat.lt_succ_self fuel)
      have calls := @call (fuel + 1) before
      have leavesOut := @leaveOut (fuel + 1) before
      rw [Nat.add_right_comm] at calls leavesOut ⊢
      exact {
        expr := ih.expr_succ
        form := ih.form_succ
        sense := ih.sense_succ
        call := calls
        numbers := ih.numbers_succ
        stmts := ih.stmts_succ
        stmt := ih.stmt_succ
        branch := ih.branch_succ
        firstRound := ih.firstRound_succ
        rounds := ih.rounds_succ
        leaveOut := leavesOut }

end Walk

/-! ## Arguments -/

/-- A walk relates slots. -/
structure Walk.RelatesSlots (W : Walk) : Prop where
  slotOf : ∀ {here there} name, W.Rel here there (slotOf name) (slotOf name)
  newSlot : ∀ {here there} value, W.Rel here there (newSlot value) (newSlot value)

namespace Walk.RelatesSlots

variable {W : Walk} {functions : String → Option Function} {fuel fuel' extra : Nat}
  {here there : Cursor} (slots : W.RelatesSlots)
include slots

lemma argument_succ (ih : W.Everywhere functions fuel fuel') (aligned : W.Aligned here there)
    (function : Function) (param : Param) (arg : Expr) :
    W.Rel here there (argument functions (fuel + 1) here function param arg)
      (argument functions (fuel' + 1) there function param arg) := by
  have dry : here.phase = .dry ↔ there.phase = .dry := Phase.eq_dry_iff (W.executes_eq aligned)
  rw [argument, argument]
  by_cases reference : param.isReference = true
  · rw [if_pos reference, if_pos reference]
    cases arg.variableName? with
    | none => exact W.throw _
    | some name =>
      refine W.bind (slots.slotOf name) fun found => ?_
      cases found with
      | some slot => exact W.pure slot
      | none =>
        simp only [dry]
        split
        · exact slots.newSlot _
        · exact W.throw _
  · rw [if_neg reference, if_neg reference]
    exact W.bind (ih.expr aligned arg) fun value => slots.newSlot value

variable (before : ∀ less < fuel, W.Everywhere functions less (less + extra))
include before

/-- A walk that goes through everything with less fuel goes through an argument. -/
lemma argument_of (aligned : W.Aligned here there) (function : Function) (param : Param)
    (arg : Expr) :
    W.Rel here there (argument functions fuel here function param arg)
      (argument functions (fuel + extra) there function param arg) := by
  cases fuel with
  | zero => exact W.outOfFuel _
  | succ fuel =>
    rw [Nat.add_right_comm]
    exact slots.argument_succ (before fuel (Nat.lt_succ_self fuel)) aligned function param arg

/-- A walk that goes through everything with less fuel goes through arguments. -/
lemma arguments_of (aligned : W.Aligned here there) (function : Function) (params : List Param)
    (args : List Expr) :
    W.Rel here there (arguments functions fuel here function params args)
      (arguments functions (fuel + extra) there function params args) := by
  induction params generalizing fuel args with
  | nil =>
    cases fuel with
    | zero => exact W.outOfFuel _
    | succ fuel =>
      rw [Nat.add_right_comm]
      unfold arguments
      exact W.pure []
  | cons param params rest =>
    cases fuel with
    | zero => exact W.outOfFuel _
    | succ fuel =>
      have lesser : ∀ less < fuel, W.Everywhere functions less (less + extra) :=
        fun less lt => before less (Nat.lt_succ_of_lt lt)
      rw [Nat.add_right_comm]
      unfold arguments
      cases args with
      | nil => exact W.pure []
      | cons arg args =>
        refine W.bind (slots.argument_of lesser aligned function param arg) fun slot => ?_
        exact W.bind (rest lesser args) fun slots => W.pure _

variable (extra) in
/-- A walk goes through a call if it goes through the marker and the function that is called. -/
lemma call_of (aligned : W.Aligned here there)
    (mark : ∀ text, W.Rel here there (mark here text) (mark there text))
    (runFunction : ∀ less < fuel, ∀ function slots,
      W.Rel here there (runFunction functions less here.calledBody function slots)
        (runFunction functions (less + extra) there.calledBody function slots)) (site : Call) :
    W.Rel here there (call functions fuel here site)
      (call functions (fuel + extra) there site) := by
  cases fuel with
  | zero => exact W.outOfFuel _
  | succ fuel =>
    rw [Nat.add_right_comm]
    cases declared : functions site.name.name with
    | none =>
      rw [call_of_undeclared functions declared, call_of_undeclared functions declared]
      exact W.throw _
    | some function =>
      have lesser : ∀ less < fuel, W.Everywhere functions less (less + extra) :=
        fun less lt => before less (Nat.lt_succ_of_lt lt)
      have gathered := slots.arguments_of lesser aligned function function.params site.args
      rw [call_of_declared functions declared, call_of_declared functions declared,
        ← W.executes_eq aligned]
      by_cases arity : site.args.length ≠ function.params.length
      · rw [if_pos arity, if_pos arity]
        exact W.throw _
      · rw [if_neg arity, if_neg arity]
        refine W.bind gathered fun slots => W.bind (mark _) fun _ => ?_
        split
        · exact W.bind (runFunction fuel (Nat.lt_succ_self fuel) function slots) fun _ => W.pure _
        · exact W.pure _

end Walk.RelatesSlots

namespace SlotWalk

variable {W : SlotWalk} {functions : String → Option Function} {fuel extra : Nat}
  {here there : Cursor}

lemma relatesSlots (W : SlotWalk) : W.RelatesSlots := ⟨W.slotOf, W.newSlot⟩

variable (before : ∀ less < fuel, W.Everywhere functions less (less + extra))
include before

lemma argument_of (aligned : W.Aligned here there) (function : Function) (param : Param)
    (arg : Expr) :
    W.Rel here there (argument functions fuel here function param arg)
      (argument functions (fuel + extra) there function param arg) :=
  W.relatesSlots.argument_of before aligned function param arg

lemma arguments_of (aligned : W.Aligned here there) (function : Function) (params : List Param)
    (args : List Expr) :
    W.Rel here there (arguments functions fuel here function params args)
      (arguments functions (fuel + extra) there function params args) :=
  W.relatesSlots.arguments_of before aligned function params args

end SlotWalk

end RobotScribe
