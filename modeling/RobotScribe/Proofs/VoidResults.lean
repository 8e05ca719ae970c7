/-
# Void at the points of a run

At each point of a run all variables of the run's frames have values (`Point.Ready`): this holds at
the first point, and it is handed on from each point to those that it comes to.

The one place where `void` can be met is the result of a call.  In code that runs, it is the result
exactly if the body of the function has come to its end without a `return`, or through a `return`
without a value (`EndsThrough`).
-/
import RobotScribe.Proofs.NoVoid

namespace RobotScribe

open Eval

/-! ## From point to point -/

section

variable {functions : String → Option Function} {base : List Frame}

lemma Eval.Upholds.inside {α : Type} {x : Eval α} {holds : α → Prop} {m n : Machine} {a : α}
    (h : Upholds base x holds) (inside : m.memory.Inside base) (ran : x m = some (.ok a, n)) :
    n.memory.Inside base := by
  cases h inside ran with
  | ok inside' keeps result => exact inside'

lemma Eval.Upholds.result {α : Type} {x : Eval α} {holds : α → Prop} {m n : Machine} {a : α}
    (h : Upholds base x holds) (inside : m.memory.Inside base) (ran : x m = some (.ok a, n)) :
    holds a := by
  cases h inside ran with
  | ok inside' keeps result => exact result

/-- What is needed to evaluate a point: the variables of the frames above the base have values, and
so have the slots that are handed over to a function. -/
def Point.Ready (base : List Frame) (p : Point) : Prop :=
  match p.task with
  | .runFunction _ _ slots => p.machine.memory.Furnished base ∧ Holds p.machine slots
  | _ => p.machine.memory.Inside base

lemma Point.Ready.furnished {p : Point} (ready : p.Ready base) :
    p.machine.memory.Furnished base := by
  obtain ⟨fuel, task, m⟩ := p
  cases task with
  | runFunction body function slots => exact ready.1
  | _ => exact Memory.Inside.furnished ready

/-- **A point that is come to is ready**, too. -/
lemma Into.ready {p q : Point} (into : Into functions p q) (ready : p.Ready base) :
    q.Ready base := by
  have valued := Valued.everywhere functions base
  cases into with
  | form enters => exact Upholds.inside (.enterSpan _) ready enters
  | index => exact ready
  | call => exact ready
  | sense => exact ready
  | left => exact ready
  | right done => exact ((valued _).expr _ _).inside ready done
  | operand => exact ready
  | inner => exact ready
  | direction => exact ready
  | arguments => exact ready
  | runFunction declared fits runs gathered =>
    cases (valued _).gather _ _ _ ready gathered with
    | ok inside keeps held => exact ⟨inside.furnished, held runs⟩
  | argument => exact ready
  | nextArguments done =>
    cases (valued _).argument _ _ _ _ ready done with
    | ok inside keeps held => exact inside
  | byValue => exact ready
  | body entered => exact inside_of_enter ready.1 ready.2 entered
  | stmt => exact ready
  | nextStmts done => exact ((valued _).stmt _ _).inside ready done
  | restOut done => exact ((valued _).stmt _ _).inside ready done
  | assigned enters => exact Upholds.inside (.enterSpan _) ready enters
  | position done =>
    exact Upholds.inside (.bind (.enterSpan _) fun _ _ => (valued _).expr _ _) ready done
  | condition enters => exact Upholds.inside (.enterSpan _) ready enters
  | thenBranch tested => exact ((valued _).test _ _ _ _).inside ready tested
  | elseBranch done => exact ((valued _).beforeElse _ _ _ _).inside ready done
  | loopCondition enters => exact Upholds.inside (.enterSpan _) ready enters
  | firstRound tested => exact ((valued _).test _ _ _ _).inside ready tested
  | given enters => exact Upholds.inside (.enterSpan _) ready enters
  | printed enters => exact Upholds.inside (.enterSpan _) ready enters
  | numbers enters => exact Upholds.inside (.enterSpan _) ready enters
  | painted enters => exact Upholds.inside (.enterSpan _) ready enters
  | reading enters => exact Upholds.inside (.enterSpan _) ready enters
  | performed enters => exact Upholds.inside (.enterSpan _) ready enters
  | number => exact ready
  | nextNumbers done => exact ((valued _).number _ _).inside ready done
  | branch => exact ready
  | branchOut => exact ready
  | rounds => exact ready
  | dryRound => exact ready
  | loopOut => exact ready
  | round => exact ready
  | retest done => exact ((valued _).stmts _ _).inside ready done
  | again done holds =>
    exact ((valued _).retest _ _).inside (((valued _).stmts _ _).inside ready done) holds
  | dry => exact ready

lemma ComesTo.ready {p q : Point} (comes : ComesTo functions p q) (ready : p.Ready base) :
    q.Ready base := by
  induction comes with
  | refl => exact ready
  | tail _ into ih => exact into.ready ih

/-- However the evaluation of a point ends, the variables have values. -/
lemma Point.Ready.furnished_of_ends {p : Point} (ready : p.Ready base)
    {outcome : Except Fault p.task.Result} {n : Machine} (ends : p.Ends functions outcome n) :
    n.memory.Furnished base := by
  obtain ⟨fuel, task, m⟩ := p
  have valued := Valued.everywhere functions base fuel
  cases task with
  | expr here e => exact (valued.expr here e ready ends).furnished
  | form here e => exact (valued.form here e ready ends).furnished
  | sense here sensor => exact (valued.sense here sensor ready ends).furnished
  | call here site => exact (valued.call here site ready ends).furnished
  | arguments here function params args =>
    exact (valued.arguments here function params args ready ends).furnished
  | argument here function param arg =>
    exact (valued.argument here function param arg ready ends).furnished
  | runFunction body function slots =>
    exact (valued.runFunction body function slots ready.1 ready.2 ends).1
  | stmts here statements => exact (valued.stmts here statements ready ends).furnished
  | stmt here s => exact (valued.stmt here s ready ends).furnished
  | branch here block taken => exact (valued.branch here block taken ready ends).furnished
  | firstRound here condition body entered =>
    exact (valued.firstRound here condition body entered ready ends).furnished
  | rounds here condition body => exact (valued.rounds here condition body ready ends).furnished
  | numbers here args => exact (valued.numbers here args ready ends).furnished
  | writeOut here statements => exact (upholds_writeOut here statements ready ends).furnished

/-- A run starts with frames that are not its own, and hands nothing over to the main function. -/
lemma Session.Passes.ready {s : Session} {fuel : Nat} {p : Point} (passes : s.Passes fuel p) :
    p.Ready s.machine.memory.frames := by
  obtain ⟨main, -, comes⟩ := passes
  have start : Point.Ready s.machine.memory.frames
      ⟨fuel, .runFunction (.top .live) main [], s.started⟩ :=
    ⟨⟨[], rfl, fun frame mem => by cases mem⟩, fun slot mem => by cases mem⟩
  exact ComesTo.ready comes start

/-- Where a run ends, the variables have values. -/
lemma Session.furnished_of_run {s t : Session} {fuel : Nat}
    {outcome : Except LocatedFault Unit} (done : s.run fuel = some (outcome, t)) :
    t.machine.memory.Furnished s.machine.memory.frames := by
  have started : s.started.memory.Furnished s.machine.memory.frames :=
    ⟨[], rfl, fun frame mem => by cases mem⟩
  have valued := Valued.everywhere s.declarations.find? s.machine.memory.frames fuel
  have nothing : Holds s.started [] := fun slot mem => by cases mem
  cases outcome with
  | ok =>
    obtain ⟨main, value, n, -, called, rfl⟩ := run_eq_ok done
    exact (valued.runFunction _ main [] started nothing called).1
  | error fault =>
    rcases (run_eq_error done).2 with ⟨-, rfl⟩ | ⟨main, n, -, called, rfl⟩
    · exact started
    · exact (valued.runFunction _ main [] started nothing called).1

end

/-! ## Returns -/

/-- What a task hands over to the function that it is evaluated in, if it can end with a
`return`. -/
def Task.flow? : (task : Task) → task.Result → Option Flow
  | .stmts .., flow => some flow
  | .stmt .., flow => some flow
  | .branch .., flow => some flow
  | .firstRound .., flow => some flow
  | .rounds .., flow => some flow
  | _, _ => none

section

variable (functions : String → Option Function)

/-- The evaluation of a point ends, and hands over the value of a `return`, or nothing. -/
def Point.HandsOver (p : Point) (flow : Flow) : Prop :=
  ∃ result n, p.Ends functions (.ok result) n ∧ p.task.flow? result = some flow

/-- The evaluation of a point ends through a `return`, with or without an expression, that hands
over a value: it is this `return`, or it comes to a part that ends through it and hands on the
same. -/
inductive EndsThrough : Point → Option Expr → Value → Prop where
  | here {fuel here given span m} {value : Value}
      (hands :
        Point.HandsOver functions ⟨fuel, .stmt here (.giveBack given span), m⟩ (some value)) :
      EndsThrough ⟨fuel, .stmt here (.giveBack given span), m⟩ given value
  | inside {p q : Point} {given : Option Expr} {value : Value} (into : Into functions p q)
      (hands : p.HandsOver functions (some value)) (ends : EndsThrough q given value) :
      EndsThrough p given value

/-- The body of the function that is called at a point. -/
inductive BodyOf : Point → Point → Prop where
  | mk {p r : Point} {fuel body function slots m}
      (calls : Into functions p ⟨fuel, .runFunction body function slots, m⟩)
      (enters : Into functions ⟨fuel, .runFunction body function slots, m⟩ r) : BodyOf p r

/-- The body of the function that is called at a point comes to its end without a `return`, or
through a `return` without a value. -/
def ReturnsNothing (p : Point) : Prop :=
  ∃ r, BodyOf functions p r ∧
    (r.HandsOver functions none ∨ ∃ value, EndsThrough functions r none value)

end

section

variable {functions : String → Option Function} {base : List Frame} {fuel : Nat} {here : Cursor}
  {m n : Machine} {flow : Flow} {value : Value}

lemma EndsThrough.hands {p : Point} {given : Option Expr}
    (ends : EndsThrough functions p given value) : p.HandsOver functions (some value) := by
  cases ends with
  | here hands => exact hands
  | inside into hands ends => exact hands

/-- A `return` without a value hands over `void`. -/
lemma EndsThrough.eq_void {p : Point} {given : Option Expr}
    (ends : EndsThrough functions p given value) (bare : given = none) : value = .void := by
  induction ends with
  | @here fuel here given span m value hands =>
    subst bare
    obtain ⟨flow, n, ran, handed⟩ := hands
    cases handed
    cases fuel with
    | zero => cases ran
    | succ fuel =>
      have ran : Eval.stmt functions (fuel + 1) here (.giveBack none span) m = _ := ran
      rw [Eval.stmt] at ran
      obtain ⟨_, l, -, ran⟩ := bind_eq_ok.mp ran
      obtain ⟨_, l', -, ran⟩ := bind_eq_ok.mp ran
      cases ran
      rfl
  | inside into hands ends ih => exact ih bare

/-- A `return` with an expression hands over the value of the expression. -/
lemma EndsThrough.full {p : Point} {given : Option Expr} {e : Expr}
    (ends : EndsThrough functions p given value) (computed : given = some e)
    (ready : p.Ready base) : Full value := by
  induction ends with
  | @here fuel here given span m value hands =>
    subst computed
    obtain ⟨flow, n, ran, handed⟩ := hands
    cases handed
    cases fuel with
    | zero => cases ran
    | succ fuel =>
      have ran : Eval.stmt functions (fuel + 1) here (.giveBack (some e) span) m = _ := ran
      rw [Eval.stmt] at ran
      obtain ⟨_, l, entered, ran⟩ := bind_eq_ok.mp ran
      obtain ⟨v, l', evaluated, ran⟩ := bind_eq_ok.mp ran
      obtain ⟨_, l'', -, ran⟩ := bind_eq_ok.mp ran
      cases ran
      have inside : l.memory.Inside base := Upholds.inside (.enterSpan _) ready entered
      exact ((Valued.everywhere functions base fuel).expr here e).result inside evaluated
  | inside into hands ends ih => exact ih computed (into.ready ready)

end

/-! ### Where a return comes from -/

namespace Eval

variable {functions : String → Option Function} {fuel : Nat} {here : Cursor} {m n : Machine}
  {flow : Flow} {value : Value}

lemma leaveOut_eq_ok {statements : List Stmt} {left : Flow}
    (ran : leaveOut functions fuel here statements left m = some (.ok flow, n)) : flow = left := by
  unfold leaveOut at ran
  cases phase : here.phase with
  | live =>
    rw [phase] at ran
    obtain ⟨_, l, -, ran⟩ := bind_eq_ok.mp ran
    cases ran
    rfl
  | silent =>
    rw [phase] at ran
    cases ran
    rfl
  | dry =>
    rw [phase] at ran
    cases ran
    rfl

/-- In code that runs, a value is handed over by each part that can do so only if there is a
`return` through which the part has ended. -/
structure Returning (functions : String → Option Function) (fuel : Nat) : Prop where
  stmts {here : Cursor} (runs : here.phase.executes = true) (statements : List Stmt)
    ⦃m value n⦄ (ran : stmts functions fuel here statements m = some (.ok (some value), n)) :
    ∃ given, EndsThrough functions ⟨fuel, .stmts here statements, m⟩ given value
  stmt {here : Cursor} (runs : here.phase.executes = true) (s : Stmt)
    ⦃m value n⦄ (ran : stmt functions fuel here s m = some (.ok (some value), n)) :
    ∃ given, EndsThrough functions ⟨fuel, .stmt here s, m⟩ given value
  branch {here : Cursor} (runs : here.phase.executes = true) (block : Block) (taken : Bool)
    ⦃m value n⦄ (ran : branch functions fuel here block taken m = some (.ok (some value), n)) :
    ∃ given, EndsThrough functions ⟨fuel, .branch here block taken, m⟩ given value
  firstRound {here : Cursor} (runs : here.phase.executes = true) (condition : Expr)
    (body : Block) (entered : Bool) ⦃m value n⦄
    (ran : firstRound functions fuel here condition body entered m = some (.ok (some value), n)) :
    ∃ given, EndsThrough functions ⟨fuel, .firstRound here condition body entered, m⟩ given value
  rounds {here : Cursor} (runs : here.phase.executes = true) (condition : Expr) (body : Block)
    ⦃m value n⦄ (ran : rounds functions fuel here condition body m = some (.ok (some value), n)) :
    ∃ given, EndsThrough functions ⟨fuel, .rounds here condition body, m⟩ given value

namespace Returning

section

variable (ih : Returning functions fuel) (runs : here.phase.executes = true)
include ih runs

lemma stmts_succ (statements : List Stmt) ⦃m value n⦄
    (ran : Eval.stmts functions (fuel + 1) here statements m = some (.ok (some value), n)) :
    ∃ given, EndsThrough functions ⟨fuel + 1, .stmts here statements, m⟩ given value := by
  have hands : Point.HandsOver functions ⟨fuel + 1, .stmts here statements, m⟩ (some value) :=
    ⟨some value, n, ran, rfl⟩
  cases statements with
  | nil => cases ran
  | cons s rest =>
    rw [stmts_cons_of_executes functions runs] at ran
    obtain ⟨flow, l, done, ran⟩ := bind_eq_ok.mp ran
    cases flow with
    | none =>
      obtain ⟨given, ends⟩ := ih.stmts runs rest ran
      exact ⟨given, .inside (.nextStmts done (Or.inl rfl)) hands ends⟩
    | some first =>
      cases leaveOut_eq_ok ran
      obtain ⟨given, ends⟩ := ih.stmt runs s done
      exact ⟨given, .inside .stmt hands ends⟩

lemma branch_succ (block : Block) (taken : Bool) ⦃m value n⦄
    (ran : Eval.branch functions (fuel + 1) here block taken m = some (.ok (some value), n)) :
    ∃ given, EndsThrough functions ⟨fuel + 1, .branch here block taken, m⟩ given value := by
  have hands : Point.HandsOver functions ⟨fuel + 1, .branch here block taken, m⟩ (some value) :=
    ⟨some value, n, ran, rfl⟩
  rw [branch_of_executes functions runs] at ran
  split at ran
  · next chosen =>
    have inside : here.deeper.phase.executes = true := runs
    obtain ⟨given, ends⟩ := ih.stmts inside block.stmts ran
    exact ⟨given, .inside (.branch (Or.inl chosen)) hands ends⟩
  · cases leaveOut_eq_ok ran

lemma firstRound_succ (condition : Expr) (body : Block) (entered : Bool) ⦃m value n⦄
    (ran : Eval.firstRound functions (fuel + 1) here condition body entered m =
      some (.ok (some value), n)) :
    ∃ given,
      EndsThrough functions ⟨fuel + 1, .firstRound here condition body entered, m⟩ given value := by
  have hands : Point.HandsOver functions ⟨fuel + 1, .firstRound here condition body entered, m⟩
      (some value) := ⟨some value, n, ran, rfl⟩
  rw [firstRound_of_executes functions runs] at ran
  cases entered with
  | true =>
    obtain ⟨given, ends⟩ := ih.rounds runs condition body ran
    exact ⟨given, .inside (.rounds runs) hands ends⟩
  | false => cases leaveOut_eq_ok ran

/-- A loop ends through the return of the round that it ends with. -/
lemma rounds_succ (condition : Expr) (body : Block) ⦃m value n⦄
    (ran : Eval.rounds functions (fuel + 1) here condition body m = some (.ok (some value), n)) :
    ∃ given, EndsThrough functions ⟨fuel + 1, .rounds here condition body, m⟩ given value := by
  have hands : Point.HandsOver functions ⟨fuel + 1, .rounds here condition body, m⟩ (some value) :=
    ⟨some value, n, ran, rfl⟩
  rw [Eval.rounds] at ran
  obtain ⟨flow, l, done, ran⟩ := bind_eq_ok.mp ran
  cases flow with
  | some first =>
    cases ran
    have inside : here.deeper.phase.executes = true := runs
    obtain ⟨given, ends⟩ := ih.stmts inside body.stmts done
    exact ⟨given, .inside .round hands ends⟩
  | none =>
    obtain ⟨v, l', evaluated, ran⟩ := bind_eq_ok.mp ran
    obtain ⟨again, l'', tested, ran⟩ := bind_eq_ok.mp ran
    cases again with
    | false => cases ran
    | true =>
      obtain ⟨given, ends⟩ := ih.rounds rfl condition body ran
      exact ⟨given, .inside (.again done (bind_eq_ok.mpr ⟨v, l', evaluated, tested⟩)) hands ends⟩

/-- Of the two branches of a conditional at most one hands something over. -/
lemma ifThen_succ (condition : Expr) (thenBlock : Block) (elseBlock : Option Block) (span : Span)
    ⦃m value n⦄ (ran : Eval.stmt functions (fuel + 1) here
      (.ifThen condition thenBlock elseBlock span) m = some (.ok (some value), n)) :
    ∃ given, EndsThrough functions
      ⟨fuel + 1, .stmt here (.ifThen condition thenBlock elseBlock span), m⟩ given value := by
  have hands : Point.HandsOver functions
      ⟨fuel + 1, .stmt here (.ifThen condition thenBlock elseBlock span), m⟩ (some value) :=
    ⟨some value, n, ran, rfl⟩
  rw [stmt_ifThen_eq_test] at ran
  obtain ⟨taken, l, tested, ran⟩ := bind_eq_ok.mp ran
  obtain ⟨first, k, done, ran⟩ := bind_eq_ok.mp ran
  obtain ⟨flow, k', second, ran⟩ := bind_eq_ok.mp ran
  obtain ⟨_, k'', -, ran⟩ := bind_eq_ok.mp ran
  cases ran
  cases first with
  | some handed =>
    have same : handed = value := by
      cases elseBlock with
      | none =>
        cases second
        rfl
      | some block =>
        obtain ⟨_, j, -, second⟩ := bind_eq_ok.mp second
        obtain ⟨_, j', -, second⟩ := bind_eq_ok.mp second
        cases second
        rfl
    subst same
    obtain ⟨given, ends⟩ := ih.branch runs thenBlock taken done
    exact ⟨given, .inside (.thenBranch tested) hands ends⟩
  | none =>
    cases elseBlock with
    | none => cases second
    | some block =>
      obtain ⟨_, j, emitted, second⟩ := bind_eq_ok.mp second
      obtain ⟨handed, j', done', second⟩ := bind_eq_ok.mp second
      have same : handed = some value := by
        cases second
        rfl
      subst same
      obtain ⟨given, ends⟩ := ih.branch runs block (!taken) done'
      have before : (do
          let taken ← Eval.test functions fuel here span "if " condition
          let _ ← Eval.branch functions fuel here thenBlock taken
          Eval.emit here "else"
          return taken) m = some (.ok taken, j) :=
        bind_eq_ok.mpr ⟨taken, l, tested, bind_eq_ok.mpr ⟨none, k, done,
          bind_eq_ok.mpr ⟨(), j, emitted, rfl⟩⟩⟩
      exact ⟨given, .inside (.elseBranch before) hands ends⟩

lemma whileDo_succ (condition : Expr) (body : Block) (span : Span) ⦃m value n⦄
    (ran : Eval.stmt functions (fuel + 1) here (.whileDo condition body span) m =
      some (.ok (some value), n)) :
    ∃ given, EndsThrough functions
      ⟨fuel + 1, .stmt here (.whileDo condition body span), m⟩ given value := by
  have hands : Point.HandsOver functions
      ⟨fuel + 1, .stmt here (.whileDo condition body span), m⟩ (some value) :=
    ⟨some value, n, ran, rfl⟩
  rw [stmt_whileDo_eq_test] at ran
  obtain ⟨entered, l, tested, ran⟩ := bind_eq_ok.mp ran
  obtain ⟨flow, k, done, ran⟩ := bind_eq_ok.mp ran
  obtain ⟨_, k', -, ran⟩ := bind_eq_ok.mp ran
  cases ran
  obtain ⟨given, ends⟩ := ih.firstRound runs condition body entered done
  exact ⟨given, .inside (.firstRound tested) hands ends⟩

omit ih runs in
/-- The other statements hand nothing over. -/
lemma yields_none {s : Stmt} (plain : ∀ condition thenBlock elseBlock span,
      s ≠ .ifThen condition thenBlock elseBlock span)
    (once : ∀ condition body span, s ≠ .whileDo condition body span)
    (stays : ∀ given span, s ≠ .giveBack given span) :
    Yields (· = none) (Eval.stmt functions (fuel + 1) here s) := by
  cases s with
  | assign target value span =>
    cases target with
    | var target =>
      rw [Eval.stmt]
      exact .after fun _ => .after fun _ => .after fun _ => .after fun _ => .pure rfl
    | element array index =>
      rw [Eval.stmt]
      refine .after fun _ => .after fun _ => .after fun _ => .after fun _ => .after fun _ => ?_
      exact .after fun _ => .after fun _ => .pure rfl
  | ifThen condition thenBlock elseBlock span => exact absurd rfl (plain _ _ _ _)
  | whileDo condition body span => exact absurd rfl (once _ _ _)
  | giveBack given span => exact absurd rfl (stays _ _)
  | read target span =>
    rw [Eval.stmt]
    refine .after fun _ => ?_
    dsimp only
    split
    · exact .after fun _ => .after fun _ => .pure rfl
    · exact .after fun _ => .pure rfl
  | write value span =>
    rw [Eval.stmt]
    exact .after fun _ => .after fun _ => .after fun _ => .pure rfl
  | actuate actuator args span =>
    rw [Eval.stmt]
    exact .after fun _ => .after fun _ => .after fun _ => .pure rfl
  | paint color span =>
    rw [Eval.stmt]
    exact .after fun _ => .after fun _ => .after fun _ => .after fun _ => .pure rfl
  | pen down span =>
    rw [Eval.stmt]
    exact .after fun _ => .after fun _ => .pure rfl
  | sense sensor span =>
    rw [Eval.stmt]
    exact .after fun _ => .after fun _ => .after fun _ => .pure rfl
  | call site =>
    rw [Eval.stmt]
    exact .after fun _ => .after fun _ => .pure rfl

lemma stmt_succ (s : Stmt) ⦃m value n⦄
    (ran : Eval.stmt functions (fuel + 1) here s m = some (.ok (some value), n)) :
    ∃ given, EndsThrough functions ⟨fuel + 1, .stmt here s, m⟩ given value := by
  cases s with
  | ifThen condition thenBlock elseBlock span =>
    exact ih.ifThen_succ runs condition thenBlock elseBlock span ran
  | whileDo condition body span => exact ih.whileDo_succ runs condition body span ran
  | giveBack given span => exact ⟨given, .here ⟨some value, n, ran, rfl⟩⟩
  | _ => cases yields_none (by simp) (by simp) (by simp) ran

end

theorem everywhere (functions : String → Option Function) (fuel : Nat) :
    Returning functions fuel := by
  induction fuel with
  | zero =>
    exact {
      stmts := fun _ _ _ _ _ ran => by cases ran
      stmt := fun _ _ _ _ _ ran => by cases ran
      branch := fun _ _ _ _ _ _ ran => by cases ran
      firstRound := fun _ _ _ _ _ _ _ ran => by cases ran
      rounds := fun _ _ _ _ _ _ ran => by cases ran }
  | succ fuel ih =>
    exact {
      stmts := ih.stmts_succ
      stmt := ih.stmt_succ
      branch := ih.branch_succ
      firstRound := ih.firstRound_succ
      rounds := ih.rounds_succ }

end Returning

end Eval

/-! ## Results of calls -/

section

variable {functions : String → Option Function} {base : List Frame} {fuel : Nat} {here : Cursor}
  {site : Call} {m n : Machine} {value : Value}

/-- An evaluation hands over one thing only. -/
lemma Point.HandsOver.unique {p : Point} {flow flow' : Flow} (hands : p.HandsOver functions flow)
    (hands' : p.HandsOver functions flow') : flow = flow' := by
  obtain ⟨result, n, ends, handed⟩ := hands
  obtain ⟨result', n', ends', handed'⟩ := hands'
  unfold Point.Ends at ends ends'
  rw [ends] at ends'
  cases ends'
  rw [handed] at handed'
  exact Option.some.inj handed'

/-- A call has one body, which hands over what becomes the result of the call. -/
lemma body_of_call (runs : here.phase.executes = true)
    (ran : call functions fuel here site m = some (.ok value, n)) :
    ∃ (rest : Nat) (inner : Cursor) (function : Function) (k : Machine) (flow : Flow) (l : Machine),
      stmts functions rest inner.deeper function.body.stmts k = some (.ok flow, l) ∧
      inner.phase.executes = true ∧ value.isVoid = (flow.getD .void).isVoid ∧
      BodyOf functions ⟨fuel, .call here site, m⟩
        ⟨rest, .stmts inner.deeper function.body.stmts, k⟩ ∧
      ∀ r, BodyOf functions ⟨fuel, .call here site, m⟩ r →
        r = ⟨rest, .stmts inner.deeper function.body.stmts, k⟩ := by
  cases fuel with
  | zero => cases ran
  | succ fuel =>
    cases declared : functions site.name.name with
    | none =>
      rw [call_of_undeclared functions declared] at ran
      cases ran
    | some function =>
      by_cases fits : site.args.length = function.params.length
      · rw [call_eq_gather declared fits] at ran
        obtain ⟨slots, j, gathered, ran⟩ := bind_eq_ok.mp ran
        rw [if_pos runs] at ran
        obtain ⟨result, j', called, ran⟩ := bind_eq_ok.mp ran
        cases ran
        cases fuel with
        | zero => cases called
        | succ rest =>
          rw [runFunction_succ, currentLine_bind] at called
          obtain ⟨_, k, entered, called⟩ := bind_eq_ok.mp called
          obtain ⟨flow, l, done, left⟩ := bind_eq_ok.mp called
          obtain ⟨rfl, -⟩ := Footprint.leave_eq_ok left
          refine ⟨rest, here.calledBody, function, k, flow, l, done, rfl, rfl,
            .mk (.runFunction declared fits runs gathered) (.body entered), ?_⟩
          rintro r ⟨calls, enters⟩
          cases calls with
          | runFunction declared' _ _ gathered' =>
            cases declared.symm.trans declared'
            cases gathered.symm.trans gathered'
            cases enters with
            | body entered' =>
              cases entered.symm.trans entered'
              rfl
      · rw [call_of_declared functions declared, if_pos fits] at ran
        cases ran

/-- **The result of a call that runs is `void` exactly if its function returns nothing.** -/
lemma isVoid_call_iff (ready : Point.Ready base ⟨fuel, .call here site, m⟩)
    (runs : here.phase.executes = true)
    (ran : call functions fuel here site m = some (.ok value, n)) :
    value.isVoid = true ↔ ReturnsNothing functions ⟨fuel, .call here site, m⟩ := by
  obtain ⟨rest, inner, function, k, flow, l, done, silent, same, body, only⟩ :=
    body_of_call runs ran
  have hands : Point.HandsOver functions ⟨rest, .stmts inner.deeper function.body.stmts, k⟩ flow :=
    ⟨flow, l, done, rfl⟩
  constructor
  · intro void
    rw [same] at void
    refine ⟨_, body, ?_⟩
    cases flow with
    | none => exact Or.inl hands
    | some handed =>
      have deeper : inner.deeper.phase.executes = true := silent
      obtain ⟨given, ends⟩ := (Returning.everywhere functions rest).stmts deeper _ done
      cases given with
      | none => exact Or.inr ⟨handed, ends⟩
      | some e =>
        obtain ⟨calls, enters⟩ := body
        have full : handed.isVoid = false := ends.full rfl (enters.ready (calls.ready ready))
        have void : handed.isVoid = true := void
        rw [full] at void
        cases void
  · rintro ⟨r, body', falls | ⟨handed, ends⟩⟩
    · obtain rfl := only r body'
      rw [same, hands.unique falls]
      rfl
    · obtain rfl := only r body'
      rw [same, hands.unique ends.hands, Option.getD_some, ends.eq_void rfl]
      rfl

/-- A call in an expression fails at once if its result is `void`. -/
lemma form_call_eq_error_iff {span : Span}
    (ran : call functions fuel here site m = some (.ok value, n)) :
    form functions (fuel + 1) here (.call site span) m =
        some (.error (.voidResultUsed site.name.name), n) ↔ value.isVoid = true := by
  rw [form, bind_of_ok ran]
  cases void : value.isVoid with
  | true => simp [bind_apply]
  | false => simp

/-- **`void` never enters the store.**  At each point of a run, all variables of the frames that the
run has pushed have values, and so they have where the evaluation of the point ends and where the
run ends, with or without a fault.  No expression yields `void`.  In code that runs, the result of
a call is `void` exactly if its function comes to its end without a `return` or through a `return`
without a value, and for a call in an expression that is the case in which the expression fails
after the call. -/
theorem void_never_enters_store (s : Session) (fuel : Nat) :
    (∀ p, s.Passes fuel p →
      p.machine.memory.Furnished s.machine.memory.frames ∧
      ∀ outcome n, p.Ends s.declarations.find? outcome n →
        n.memory.Furnished s.machine.memory.frames) ∧
    (∀ outcome t, s.run fuel = some (outcome, t) →
      t.machine.memory.Furnished s.machine.memory.frames) ∧
    (∀ rest here e m value n, s.Passes fuel ⟨rest, .expr here e, m⟩ →
      expr s.declarations.find? rest here e m = some (.ok value, n) → value.isVoid = false) ∧
    (∀ rest here site m value n, s.Passes fuel ⟨rest, .call here site, m⟩ →
      here.phase.executes = true →
      call s.declarations.find? rest here site m = some (.ok value, n) →
      (value.isVoid = true ↔ ReturnsNothing s.declarations.find? ⟨rest, .call here site, m⟩)) ∧
    (∀ rest here site span m value n,
      s.Passes fuel ⟨rest + 1, .form here (.call site span), m⟩ → here.phase.executes = true →
      call s.declarations.find? rest here site m = some (.ok value, n) →
      (form s.declarations.find? (rest + 1) here (.call site span) m =
          some (.error (.voidResultUsed site.name.name), n) ↔
        ReturnsNothing s.declarations.find? ⟨rest, .call here site, m⟩)) := by
  refine ⟨fun p passes => ?_, fun outcome t done => Session.furnished_of_run done, ?_, ?_, ?_⟩
  · exact ⟨passes.ready.furnished, fun outcome n ends => passes.ready.furnished_of_ends ends⟩
  · intro rest here e m value n passes ran
    exact ((Valued.everywhere _ _ rest).expr here e).result passes.ready ran
  · intro rest here site m value n passes runs ran
    exact isVoid_call_iff passes.ready runs ran
  · intro rest here site span m value n passes runs ran
    rw [form_call_eq_error_iff ran]
    exact isVoid_call_iff (passes.into .call).ready runs ran

end

/-- The call of a function that returns nothing. -/
def quietCall : Call := ⟨⟨"quiet", .unknown⟩, [], .unknown⟩

/-- A program that uses the result of a function which leaves a branch through a `return` without a
value. -/
def quietProgram : Program where
  functions :=
    [⟨⟨"main", .unknown⟩, [], none,
      ⟨[.assign (.var ⟨"x", .unknown⟩) (.call quietCall .unknown) (.ofLine 2)], .unknown⟩,
      .ofLine 1⟩,
     ⟨⟨"quiet", .unknown⟩, [], some .integer,
      ⟨[.assign (.var ⟨"y", .unknown⟩) (.integer 7 .unknown) .unknown,
        .ifThen (.boolean true .unknown) ⟨[.giveBack none (.ofLine 5)], .unknown⟩ none .unknown,
        .giveBack (some (.var "y" .unknown)) .unknown], .unknown⟩, .ofLine 4⟩]
  span := .unknown

/-- The session of that program. -/
def quietSession : Session :=
  ⟨⟨quietProgram.functions⟩, .standard, false, Session.initialMachine ⟨[], []⟩ none⟩

/-- The machine in which the call is made. -/
def atQuietCall : Machine :=
  { quietSession.started with memory := quietSession.started.memory.enter "main" 0 [], line := 2 }

/-- The run ends with the fault, and what the function has left behind is in order. -/
theorem void_never_enters_store_quiet : ∃ n t,
    quietSession.Passes 20
      ⟨16, .form (Cursor.top .live).deeper (.call quietCall .unknown), atQuietCall⟩ ∧
    form quietSession.declarations.find? 16 (Cursor.top .live).deeper (.call quietCall .unknown)
      atQuietCall = some (.error (.voidResultUsed "quiet"), n) ∧
    ReturnsNothing quietSession.declarations.find?
      ⟨15, .call (Cursor.top .live).deeper quietCall, atQuietCall⟩ ∧
    quietSession.run 20 = some (.error ⟨.voidResultUsed "quiet", 2⟩, t) ∧
    t.machine.memory.Furnished [] := by
  obtain ⟨-, ends, -, result, fails⟩ := void_never_enters_store quietSession 20
  have passes : quietSession.Passes 20
      ⟨16, .form (Cursor.top .live).deeper (.call quietCall .unknown), atQuietCall⟩ :=
    ⟨_, rfl, .tail (.tail (.tail (.tail .refl (.body rfl)) .stmt) (.assigned rfl)) (.form rfl)⟩
  have calls : (call quietSession.declarations.find? 15 (Cursor.top .live).deeper quietCall
      atQuietCall).map (fun stop => stop.1.toOption.map Value.isVoid) = some (some true) := by
    decide +kernel
  obtain ⟨⟨outcome, n⟩, called, void⟩ := Option.map_eq_some_iff.mp calls
  cases outcome with
  | error fault => cases void
  | ok value =>
    have nothing := (result 15 _ quietCall atQuietCall value n
      (passes.into .call) rfl called).mp (Option.some.inj void)
    have fault := (fails 15 _ quietCall .unknown atQuietCall value n passes rfl called).mpr nothing
    have stops : (quietSession.run 20).map Prod.fst =
        some (.error ⟨.voidResultUsed "quiet", 2⟩) := by decide +kernel
    obtain ⟨⟨outcome, t⟩, ran, rfl⟩ := Option.map_eq_some_iff.mp stops
    exact ⟨n, t, passes, fault, nothing, ran, ends _ t ran⟩

end RobotScribe
